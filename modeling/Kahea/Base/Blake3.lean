import Kahea.Base.Text

/-!
# BLAKE3

The BLAKE3 hash of a byte string, in its default mode with 256 bits of output.

A chunk of at most 1024 bytes is compressed block by block. The chaining values
of the chunks are then joined two by two until one node is left, which is the
root; a node without a partner moves up a level as it is, which gives the
left-full tree of the specification.

## Main definitions

* `blake3Compress`: The compression function.
* `blake3Chunk`, `blake3Join`: Chunks and the tree over them.
* `blake3Hex`: The digest in lower-case hexadecimal.
-/

namespace Kahea

def blake3Iv : List UInt32 :=
  [0x6A09E667, 0xBB67AE85, 0x3C6EF372, 0xA54FF53A, 0x510E527F, 0x9B05688C, 0x1F83D9AB, 0x5BE0CD19]

/-- The order of the message words in the next round. -/
def blake3Permutation : List Nat := [2, 6, 3, 10, 7, 0, 4, 13, 1, 11, 12, 5, 9, 14, 15, 8]

def rotateRight (x : UInt32) (n : UInt32) : UInt32 := (x >>> n) ||| (x <<< (32 - n))

/-- The quarter round on four words of the state. -/
def blake3Mix (s : List UInt32) (a b c d : Nat) (x y : UInt32) : List UInt32 :=
  let wa := s.getD a 0 + s.getD b 0 + x
  let wd := rotateRight (s.getD d 0 ^^^ wa) 16
  let wc := s.getD c 0 + wd
  let wb := rotateRight (s.getD b 0 ^^^ wc) 12
  let wa := wa + wb + y
  let wd := rotateRight (wd ^^^ wa) 8
  let wc := wc + wd
  let wb := rotateRight (wb ^^^ wc) 7
  (((s.set a wa).set b wb).set c wc).set d wd

/-- One round: the columns and then the diagonals. -/
def blake3Round (s m : List UInt32) : List UInt32 :=
  let w := fun i => m.getD i 0
  let s := blake3Mix s 0 4 8 12 (w 0) (w 1)
  let s := blake3Mix s 1 5 9 13 (w 2) (w 3)
  let s := blake3Mix s 2 6 10 14 (w 4) (w 5)
  let s := blake3Mix s 3 7 11 15 (w 6) (w 7)
  let s := blake3Mix s 0 5 10 15 (w 8) (w 9)
  let s := blake3Mix s 1 6 11 12 (w 10) (w 11)
  let s := blake3Mix s 2 7 8 13 (w 12) (w 13)
  blake3Mix s 3 4 9 14 (w 14) (w 15)

/-- The rounds, with the message permuted between them. -/
def blake3Rounds : Nat → List UInt32 → List UInt32 → List UInt32
  | 0, s, _ => s
  | n + 1, s, m =>
      blake3Rounds n (blake3Round s m) (blake3Permutation.map (fun i => m.getD i 0))

/-- The new chaining value of a block. -/
def blake3Compress (cv block : List UInt32) (counter : Nat) (length flags : UInt32) :
    List UInt32 :=
  let s := cv ++ blake3Iv.take 4 ++
    [counter.toUInt32, (counter >>> 32).toUInt32, length, flags]
  let s := blake3Rounds 7 s block
  List.zipWith (· ^^^ ·) (s.take 8) (s.drop 8)

/-- The little-endian words of a block. -/
def blake3Words (block : List UInt8) : List UInt32 :=
  (List.range 16).map (fun i => (List.range 4).foldr (fun j acc =>
    acc * 256 + (block.getD (4 * i + j) 0).toUInt32) 0)

/-- A list in pieces of a positive length; `n` bounds their number. -/
def pieces {α : Type} (length : Nat) : Nat → List α → List (List α)
  | 0, _ => []
  | n + 1, l =>
      if l.length ≤ length then [l] else l.take length :: pieces length n (l.drop length)

/-- The chaining value of a chunk; `last` is added to the flags of its last
    block. -/
def blake3Chunk (counter : Nat) (last : UInt32) (chunk : List UInt8) : List UInt32 :=
  let blocks := pieces 64 16 chunk
  (blocks.zipIdx.foldl (fun cv entry =>
    let first : UInt32 := if entry.2 = 0 then 1 else 0
    let final : UInt32 := if entry.2 + 1 = blocks.length then 2 ||| last else 0
    blake3Compress cv (blake3Words entry.1) counter entry.1.length.toUInt32 (first ||| final))
    blake3Iv)

/-- The chaining value of a parent node. -/
def blake3Parent (flags : UInt32) (left right : List UInt32) : List UInt32 :=
  blake3Compress blake3Iv (left ++ right) 0 64 (4 ||| flags)

/-- Join neighbours; the last two nodes of all make the root. -/
def blake3Level (flags : UInt32) : List (List UInt32) → List (List UInt32)
  | left :: right :: rest => blake3Parent flags left right :: blake3Level flags rest
  | nodes => nodes

/-- Join level by level; `n` bounds the number of levels. -/
def blake3Join : Nat → List (List UInt32) → List UInt32
  | _, [] => []
  | _, [root] => root
  | 0, node :: _ => node
  | n + 1, nodes => blake3Join n (blake3Level (if nodes.length = 2 then 8 else 0) nodes)

/-- The root of the tree over a byte string. -/
def blake3Root (bytes : List UInt8) : List UInt32 :=
  let chunks := pieces 1024 (bytes.length + 1) bytes
  match chunks with
  | [chunk] => blake3Chunk 0 8 chunk
  | _ => blake3Join chunks.length (chunks.zipIdx.map (fun entry => blake3Chunk entry.2 0 entry.1))

/-- The digest in lower-case hexadecimal. -/
def blake3Hex (bytes : List UInt8) : Str :=
  (blake3Root bytes).flatMap (fun word => (List.range 4).flatMap (fun i =>
    let byte := (word >>> (8 * i).toUInt32).toNat % 256
    [hexDigit (byte / 16), hexDigit (byte % 16)]))

example : (blake3Hex (utf8 "abc")).take 16 = "6437b3ac38465133".toList := by decide +kernel

end Kahea

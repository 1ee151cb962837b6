import Kahea.Base.Text

/-!
# JSON Values

The value type of a JSON library, with the accessors programs read documents
through and the compact writer they seal records with.

An object is the list of its members. Libraries keep members sorted by key and
free of duplicates, which `insert` does here too; `get` reads the first member
of a name, so on such objects it is the lookup the library performs. A number
that is not an integer is kept as the text it is printed with, since no part
of the development computes with floating point.

`pointer` follows a JSON Pointer the way the library does: tokens are unescaped
`~1` first and `~0` second, and an array index is a decimal without sign or
leading zero.

## Main definitions

* `Number`, `Value`: JSON numbers and values.
* `Value.get`, `Value.pointer`: Member access and JSON Pointers.
* `insert`, `lookup`: Sorted association lists.
* `Value.render`: The compact text of a value.
* `Value.texts`: Every text a value is written with.
* `Value.replaceAt`: A value with the part at a pointer replaced.

## Theorems

* `Value.beq_iff`: The structural equality test decides equality.
* `lookup_mem`: What a lookup finds is a member.
-/

namespace Kahea

/-- A JSON number: `negInt n` is `-(n + 1)`, and a number that is not an
    integer is the text it is printed with. -/
inductive Number where
  | posInt (n : Nat)
  | negInt (n : Nat)
  | float (text : Str)
  deriving DecidableEq, Repr

/-- The printed form of a number. -/
def Number.text : Number → Str
  | .posInt n => decimal n
  | .negInt n => '-' :: decimal (n + 1)
  | .float t => t

/-- A JSON value. -/
inductive Value where
  | null
  | bool (b : Bool)
  | number (n : Number)
  | string (s : Str)
  | array (items : List Value)
  | object (members : List (Str × Value))
  deriving Repr

instance : Inhabited Value := ⟨.null⟩

mutual

/-- Structural equality of values. -/
def Value.beq : Value → Value → Bool
  | .null, .null => true
  | .bool a, .bool b => a == b
  | .number a, .number b => a = b
  | .string a, .string b => a = b
  | .array a, .array b => Value.beqItems a b
  | .object a, .object b => Value.beqMembers a b
  | _, _ => false

/-- Structural equality of array items. -/
def Value.beqItems : List Value → List Value → Bool
  | [], [] => true
  | a :: as, b :: bs => Value.beq a b && Value.beqItems as bs
  | _, _ => false

/-- Structural equality of object members. -/
def Value.beqMembers : List (Str × Value) → List (Str × Value) → Bool
  | [], [] => true
  | (k, a) :: as, (l, b) :: bs => k = l && Value.beq a b && Value.beqMembers as bs
  | _, _ => false

end

mutual

theorem Value.beq_iff : ∀ a b : Value, Value.beq a b = true ↔ a = b
  | .null, b => by cases b <;> simp [Value.beq]
  | .bool _, b => by cases b <;> simp [Value.beq]
  | .number _, b => by cases b <;> simp [Value.beq]
  | .string _, b => by cases b <;> simp [Value.beq]
  | .array as, b => by cases b <;> simp [Value.beq, Value.beqItems_iff as]
  | .object as, b => by cases b <;> simp [Value.beq, Value.beqMembers_iff as]

theorem Value.beqItems_iff : ∀ as bs : List Value, Value.beqItems as bs = true ↔ as = bs
  | [], bs => by cases bs <;> simp [Value.beqItems]
  | a :: as, bs => by
      cases bs with
      | nil => simp [Value.beqItems]
      | cons b bs => simp [Value.beqItems, Value.beq_iff a, Value.beqItems_iff as]

theorem Value.beqMembers_iff :
    ∀ as bs : List (Str × Value), Value.beqMembers as bs = true ↔ as = bs
  | [], bs => by cases bs <;> simp [Value.beqMembers]
  | (k, a) :: as, bs => by
      cases bs with
      | nil => simp [Value.beqMembers]
      | cons b bs =>
          simp [Value.beqMembers, Value.beq_iff a, Value.beqMembers_iff as, Prod.ext_iff]

end

instance : DecidableEq Value := fun a b => decidable_of_iff _ (Value.beq_iff a b)

/-! ### Association lists -/

section Assoc

variable {β : Type}

/-- The first value stored under a key. -/
def lookup (k : Str) : List (Str × β) → Option β
  | [] => none
  | (l, v) :: rest => if l = k then some v else lookup k rest

/-- Store a value under a key, in key order, replacing what was there. -/
def insert (k : Str) (v : β) : List (Str × β) → List (Str × β)
  | [] => [(k, v)]
  | (l, w) :: rest =>
      if k = l then (k, v) :: rest
      else if strLt k l then (k, v) :: (l, w) :: rest
      else (l, w) :: insert k v rest

theorem lookup_mem {k : Str} {v : β} {m : List (Str × β)} (h : lookup k m = some v) :
    (k, v) ∈ m := by
  induction m with
  | nil => simp only [lookup, reduceCtorEq] at h
  | cons e rest ih =>
      rcases e with ⟨l, w⟩
      by_cases hlk : l = k
      · rw [lookup, if_pos hlk, Option.some.injEq] at h
        rw [hlk, h]
        exact List.mem_cons_self
      · rw [lookup, if_neg hlk] at h
        exact List.mem_cons_of_mem _ (ih h)

end Assoc

/-! ### Accessors -/

/-- The members of an object. -/
def Value.asObject : Value → Option (List (Str × Value))
  | .object m => some m
  | _ => none

/-- The items of an array. -/
def Value.asArray : Value → Option (List Value)
  | .array xs => some xs
  | _ => none

/-- The text of a string. -/
def Value.asStr : Value → Option Str
  | .string s => some s
  | _ => none

/-- The truth value of a boolean. -/
def Value.asBool : Value → Option Bool
  | .bool b => some b
  | _ => none

/-- An unsigned 64-bit integer. -/
def Value.asU64 : Value → Option Nat
  | .number (.posInt n) => some n
  | _ => none

/-- Whether the number fits a signed or an unsigned 64-bit integer. -/
def Value.isInteger : Value → Bool
  | .number (.posInt _) => true
  | .number (.negInt _) => true
  | _ => false

/-- The member of a name; nothing for a value that is not an object. -/
def Value.get (v : Value) (k : Str) : Option Value := v.asObject.bind (lookup k)

/-- An unsigned decimal below a bound. A leading plus sign is accepted, as the
    standard parser of unsigned integers accepts it. -/
def parseUnsigned (bound : Nat) (s : Str) : Option Nat :=
  let digits := (stripPrefix "+" s).getD s
  if digits ≠ [] ∧ digits.all Char.isDigit then
    let n := digits.foldl (fun acc c => acc * 10 + (c.toNat - '0'.toNat)) 0
    if n < bound then some n else none
  else none

/-- The array index a pointer token denotes. -/
def parseIndex (s : Str) : Option Nat :=
  if startsWith "+" s || (startsWith "0" s && s.length ≠ 1) then none
  else parseUnsigned u64Bound s

/-- One pointer token, unescaped. -/
def unescapeToken (t : Str) : Str := replaceAll "~0" "~" (replaceAll "~1" "/" t)

/-- Follow one pointer token. -/
def Value.child (v : Value) (token : Str) : Option Value :=
  match v with
  | .object m => lookup token m
  | .array xs => (parseIndex token).bind (fun i => xs[i]?)
  | _ => none

/-- Follow a list of unescaped pointer tokens. -/
def Value.descend (v : Value) (tokens : List Str) : Option Value :=
  tokens.foldlM Value.child v

/-- The tokens of a JSON Pointer, `none` when it is neither empty nor begins
    with a slash. -/
def pointerTokens (p : Str) : Option (List Str) :=
  match p with
  | [] => some []
  | '/' :: rest => some ((rest.splitOn '/').map unescapeToken)
  | _ => none

/-- The value a JSON Pointer selects. -/
def Value.pointer (v : Value) (p : Str) : Option Value :=
  (pointerTokens p).bind v.descend

/-! ### Writing -/

/-- One character inside a JSON string. -/
def escapeChar (c : Char) : Str :=
  if c = '"' then "\\\""
  else if c = '\\' then "\\\\"
  else if c = '\n' then "\\n"
  else if c = '\r' then "\\r"
  else if c = '\t' then "\\t"
  else if c.toNat = 8 then "\\b"
  else if c.toNat = 12 then "\\f"
  else if c.toNat < 0x20 then "\\u00" ++ [hexDigit (c.toNat / 16), hexDigit (c.toNat % 16)]
  else [c]

/-- A JSON string literal. -/
def quote (s : Str) : Str := '"' :: (s.flatMap escapeChar ++ ['"'])

mutual

/-- The compact text of a value. -/
def Value.render : Value → Str
  | .null => "null"
  | .bool true => "true"
  | .bool false => "false"
  | .number n => n.text
  | .string s => quote s
  | .array xs => '[' :: (Value.renderItems xs ++ [']'])
  | .object m => '\x7b' :: (Value.renderMembers m ++ ['\x7d'])

/-- Array items, separated by commas. -/
def Value.renderItems : List Value → Str
  | [] => []
  | [x] => x.render
  | x :: xs => x.render ++ (',' :: Value.renderItems xs)

/-- Object members, separated by commas. -/
def Value.renderMembers : List (Str × Value) → Str
  | [] => []
  | [(k, v)] => quote k ++ (':' :: v.render)
  | (k, v) :: m => quote k ++ (':' :: v.render) ++ (',' :: Value.renderMembers m)

end

mutual

/-- Every text a value is written with: keys, strings, numbers and literals. -/
def Value.texts : Value → List Str
  | .null => ["null"]
  | .bool b => [if b then "true" else "false"]
  | .number n => [n.text]
  | .string s => [s]
  | .array xs => Value.textsItems xs
  | .object m => Value.textsMembers m

/-- The texts of array items. -/
def Value.textsItems : List Value → List Str
  | [] => []
  | x :: xs => x.texts ++ Value.textsItems xs

/-- The texts of object members. -/
def Value.textsMembers : List (Str × Value) → List Str
  | [] => []
  | (k, v) :: m => k :: (v.texts ++ Value.textsMembers m)

end

theorem Value.mem_textsItems {t : Str} {xs : List Value} :
    t ∈ Value.textsItems xs ↔ ∃ x ∈ xs, t ∈ x.texts := by
  induction xs with
  | nil => simp only [textsItems, List.not_mem_nil, false_and, exists_false]
  | cons x xs ih => simp only [textsItems, List.mem_append, ih, List.mem_cons, exists_eq_or_imp]

theorem Value.mem_textsMembers {t : Str} {m : List (Str × Value)} :
    t ∈ Value.textsMembers m ↔ ∃ e ∈ m, t = e.1 ∨ t ∈ e.2.texts := by
  induction m with
  | nil => simp only [textsMembers, List.not_mem_nil, false_and, exists_false]
  | cons e m ih =>
      rcases e with ⟨k, v⟩
      simp only [textsMembers, List.mem_cons, List.mem_append, ih, exists_eq_or_imp, or_assoc]

/-- What an insertion leaves is the new member or was there before. -/
theorem mem_of_mem_insert {β : Type} {k : Str} {v : β} {m : List (Str × β)} {e : Str × β}
    (h : e ∈ insert k v m) : e = (k, v) ∨ e ∈ m := by
  induction m with
  | nil => exact Or.inl (List.mem_singleton.mp h)
  | cons f rest ih =>
      rcases f with ⟨l, w⟩
      unfold insert at h
      split_ifs at h
      · rcases List.mem_cons.mp h with rfl | h
        · exact Or.inl rfl
        · exact Or.inr (List.mem_cons_of_mem _ h)
      · rcases List.mem_cons.mp h with rfl | h
        · exact Or.inl rfl
        · exact Or.inr h
      · rcases List.mem_cons.mp h with rfl | h
        · exact Or.inr List.mem_cons_self
        · exact (ih h).imp_right (List.mem_cons_of_mem _)

theorem mem_insert_self {β : Type} (k : Str) (v : β) (m : List (Str × β)) : (k, v) ∈ insert k v m := by
  induction m with
  | nil => exact List.mem_singleton_self _
  | cons f rest ih =>
      unfold insert
      split_ifs
      · exact List.mem_cons_self
      · exact List.mem_cons_self
      · exact List.mem_cons_of_mem _ ih

/-- An insertion keeps the members of other keys. -/
theorem mem_insert_of_ne {β : Type} {k : Str} {v : β} {m : List (Str × β)} {e : Str × β}
    (h : e ∈ m) (hne : e.1 ≠ k) : e ∈ insert k v m := by
  induction m with
  | nil => exact absurd h List.not_mem_nil
  | cons f rest ih =>
      unfold insert
      rcases List.mem_cons.mp h with rfl | h
      · split_ifs with hk
        · exact absurd hk.symm hne
        · exact List.mem_cons_of_mem _ List.mem_cons_self
        · exact List.mem_cons_self
      · split_ifs
        · exact List.mem_cons_of_mem _ h
        · exact List.mem_cons_of_mem _ (List.mem_cons_of_mem _ h)
        · exact List.mem_cons_of_mem _ (ih h)

theorem lookup_insert_self {β : Type} (k : Str) (v : β) (m : List (Str × β)) :
    lookup k (insert k v m) = some v := by
  induction m with
  | nil => rw [insert, lookup, if_pos rfl]
  | cons e rest ih =>
      rcases e with ⟨l, w⟩
      rw [insert]
      split_ifs with hkl hlt
      · rw [lookup, if_pos rfl]
      · rw [lookup, if_pos rfl]
      · rw [lookup, if_neg (fun h => hkl h.symm), ih]

theorem lookup_insert_of_ne {β : Type} {k l : Str} (h : l ≠ k) (v : β) (m : List (Str × β)) :
    lookup l (insert k v m) = lookup l m := by
  induction m with
  | nil =>
      unfold insert lookup
      rw [if_neg (Ne.symm h)]
      rfl
  | cons e rest ih =>
      rcases e with ⟨k', w⟩
      rw [insert]
      split_ifs with hk hlt
      · rw [← hk, lookup, if_neg (Ne.symm h), lookup, if_neg (Ne.symm h)]
      · rw [lookup, if_neg (Ne.symm h)]
      · rw [lookup, lookup, ih]

/-- In a map a member is what its key is looked up as. -/
theorem lookup_eq_some_iff_mem {β : Type} {k : Str} {v : β} {m : List (Str × β)}
    (h : (m.map Prod.fst).Nodup) : lookup k m = some v ↔ (k, v) ∈ m := by
  refine ⟨lookup_mem, fun hmem => ?_⟩
  induction m with
  | nil => cases hmem
  | cons e m ih =>
      rw [List.map_cons, List.nodup_cons] at h
      rcases List.mem_cons.mp hmem with rfl | hmem
      · exact if_pos rfl
      · have hne : e.1 ≠ k := fun hk => h.1 (hk ▸ List.mem_map_of_mem hmem)
        exact (if_neg hne).trans (ih h.2 hmem)

theorem lookup_cons_ne {k l : Str} (h : l ≠ k) (v : Value) (rest : List (Str × Value)) :
    lookup k ((l, v) :: rest) = lookup k rest := if_neg h

theorem lookup_nil (k : Str) : lookup k ([] : List (Str × Value)) = none := rfl

theorem lookup_append {β : Type} (k : Str) (m n : List (Str × β)) :
    lookup k (m ++ n) = (lookup k m).or (lookup k n) := by
  induction m with
  | nil => rfl
  | cons e rest ih =>
      rcases e with ⟨l, w⟩
      rw [List.cons_append, lookup, lookup]
      split_ifs
      · rfl
      · exact ih

/-- Replace the value of an existing member. -/
def setMember {β : Type} (k : Str) (v : β) : List (Str × β) → List (Str × β)
  | [] => []
  | (l, w) :: rest => if l = k then (l, v) :: rest else (l, w) :: setMember k v rest

/-- The value with the part that pointer tokens select replaced, if they select
    one. -/
def Value.replaceAt (w : Value) : List Str → Value → Option Value
  | [], _ => some w
  | token :: rest, .object m => (lookup token m).bind (fun child =>
      (Value.replaceAt w rest child).map (fun c => .object (setMember token c m)))
  | token :: rest, .array xs => (parseIndex token).bind (fun i => (xs[i]?).bind (fun child =>
      (Value.replaceAt w rest child).map (fun c => .array (xs.set i c))))
  | _ :: _, _ => none

/-- The JSON form of an optional value. -/
def optional (f : α → Value) : Option α → Value
  | none => .null
  | some a => f a

/-- The JSON form of a list of strings. -/
def stringArray (xs : List Str) : Value := .array (xs.map .string)

end Kahea

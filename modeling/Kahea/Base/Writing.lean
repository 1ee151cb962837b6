import Kahea.Base.Json

/-!
# The Texts of JSON Values

No two values are written alike.

A value is told by the first character of its text, a string ends at its first
quote that is not escaped, and a number at the first character that stands in
no number. So what follows a value can be told from it, provided that it does
not begin like the rest of a number: after a value stands the end of the text,
a comma or a closing bracket.

## Main definitions

* `unescapeFront`: The character an escape stands for.
* `Number.Printed`, `Value.Printed`: Numbers as they are printed.
* `Closed`: What may follow a value.

## Theorems

* `quote_append_inj`: A string and what follows it.
* `Value.render_append_inj`: A value and what follows it.
* `Value.render_inj`: Values that are written alike are equal.
-/

namespace Kahea

/-! ### Strings -/

/-- The value of a hexadecimal digit in lower case. -/
def nibble (c : Char) : Nat := if c.isDigit then c.toNat - 48 else c.toNat - 87

/-- The character that an escape begins with, after its backslash. -/
def unescapeTail : Str → Option (Char × Str)
  | 'u' :: _ :: _ :: a :: b :: rest => some (Char.ofNat (16 * nibble a + nibble b), rest)
  | '"' :: rest => some ('"', rest)
  | '\\' :: rest => some ('\\', rest)
  | 'n' :: rest => some ('\n', rest)
  | 'r' :: rest => some ('\r', rest)
  | 't' :: rest => some ('\t', rest)
  | 'b' :: rest => some (Char.ofNat 8, rest)
  | 'f' :: rest => some (Char.ofNat 12, rest)
  | _ => none

/-- The first character of the inside of a string. -/
def unescapeFront : Str → Option (Char × Str)
  | [] => none
  | c :: rest => if c = '\\' then unescapeTail rest else some (c, rest)

/-- A hexadecimal digit gives back its value. -/
theorem nibble_hexDigit {n : Nat} (h : n < 16) : nibble (hexDigit n) = n := by
  have hall : ∀ n < 16, nibble (hexDigit n) = n := by decide
  exact hall n h

/-- An escaped character is read back, whatever follows. -/
theorem unescapeFront_escapeChar (c : Char) (rest : Str) :
    unescapeFront (escapeChar c ++ rest) = some (c, rest) := by
  have hofNat : ∀ n, c.toNat = n → Char.ofNat n = c := fun n h => h ▸ Char.ofNat_toNat c
  unfold escapeChar
  by_cases h1 : c = '"'
  · rw [if_pos h1, h1]
    rfl
  rw [if_neg h1]
  by_cases h2 : c = '\\'
  · rw [if_pos h2, h2]
    rfl
  rw [if_neg h2]
  by_cases h3 : c = '\n'
  · rw [if_pos h3, h3]
    rfl
  rw [if_neg h3]
  by_cases h4 : c = '\r'
  · rw [if_pos h4, h4]
    rfl
  rw [if_neg h4]
  by_cases h5 : c = '\t'
  · rw [if_pos h5, h5]
    rfl
  rw [if_neg h5]
  by_cases h6 : c.toNat = 8
  · rw [if_pos h6, ← hofNat 8 h6]
    rfl
  rw [if_neg h6]
  by_cases h7 : c.toNat = 12
  · rw [if_pos h7, ← hofNat 12 h7]
    rfl
  rw [if_neg h7]
  by_cases h8 : c.toNat < 0x20
  · rw [if_pos h8]
    have hvalue : 16 * nibble (hexDigit (c.toNat / 16)) + nibble (hexDigit (c.toNat % 16)) =
        c.toNat := by
      rw [nibble_hexDigit (by omega), nibble_hexDigit (by omega)]
      omega
    change some (Char.ofNat (16 * nibble (hexDigit (c.toNat / 16)) +
      nibble (hexDigit (c.toNat % 16))), rest) = _
    rw [hvalue, Char.ofNat_toNat]
  · rw [if_neg h8, List.singleton_append, unescapeFront, if_neg h2]

/-- No escape is the start of another. -/
theorem escapeChar_append_inj {c d : Char} {r s : Str}
    (h : escapeChar c ++ r = escapeChar d ++ s) : c = d ∧ r = s := by
  have hread := congrArg unescapeFront h
  rw [unescapeFront_escapeChar, unescapeFront_escapeChar] at hread
  exact Prod.mk.inj (Option.some.inj hread)

/-- No escape begins with the quote that ends a string. -/
theorem escapeChar_ne_quote (c : Char) (r s : Str) : escapeChar c ++ r ≠ '"' :: s := by
  intro h
  have hread := unescapeFront_escapeChar c r
  rw [h, unescapeFront, if_neg (by decide), Option.some.injEq, Prod.mk.injEq] at hread
  -- The quote itself is escaped, so it is not the character that is read.
  rw [← hread.1] at h
  exact absurd (List.cons.inj h).1 (by decide)

/-- A string and what follows it. -/
theorem quote_append_inj {s t r r' : Str} (h : quote s ++ r = quote t ++ r') : s = t ∧ r = r' := by
  rw [quote, quote, List.cons_append, List.cons_append, List.append_assoc, List.append_assoc] at h
  replace h := (List.cons.inj h).2
  induction s generalizing t with
  | nil =>
      cases t with
      | nil => exact ⟨rfl, (List.cons.inj h).2⟩
      | cons d t =>
          rw [List.flatMap_cons, List.append_assoc] at h
          exact absurd h.symm (escapeChar_ne_quote _ _ _)
  | cons c s ih =>
      cases t with
      | nil =>
          rw [List.flatMap_cons, List.append_assoc] at h
          exact absurd h (escapeChar_ne_quote _ _ _)
      | cons d t =>
          rw [List.flatMap_cons, List.flatMap_cons, List.append_assoc, List.append_assoc] at h
          rcases escapeChar_append_inj h with ⟨rfl, hrest⟩
          rcases ih hrest with ⟨rfl, hr⟩
          exact ⟨rfl, hr⟩

/-! ### Numbers -/

/-- A character of a printed number. -/
def isNumberChar (c : Char) : Bool := c.isDigit || "+-.eE".toList.contains c

/-- A number that is no integer is printed with a point or an exponent. -/
def Number.Printed : Number → Prop
  | .float t => t.all isNumberChar = true ∧ ∃ c ∈ t, c ≠ '-' ∧ c.isDigit = false
  | _ => True

theorem isNumberChar_of_isDigit {c : Char} (h : c.isDigit = true) : isNumberChar c = true := by
  rw [isNumberChar, h, Bool.true_or]

/-- A number is written in characters of numbers only. -/
theorem Number.all_text {n : Number} (h : n.Printed) : n.text.all isNumberChar = true := by
  cases n with
  | posInt n =>
      exact List.all_eq_true.mpr (fun c hc => isNumberChar_of_isDigit (isDigit_of_mem_decimal hc))
  | negInt n =>
      refine List.all_eq_true.mpr (fun c hc => ?_)
      rcases List.mem_cons.mp hc with rfl | hc
      · decide
      · exact isNumberChar_of_isDigit (isDigit_of_mem_decimal hc)
  | float t => exact h.1

/-- A float is never written like an integer. -/
theorem not_integer_text {t : Str} (h : (Number.float t).Printed) {s : Str}
    (hs : ∀ c ∈ s, c.isDigit = true ∨ c = '-') : s ≠ t := by
  rintro rfl
  rcases h.2 with ⟨c, hc, hne, hdigit⟩
  rcases hs c hc with h | h
  · exact absurd h (by simp [hdigit])
  · exact hne h

theorem isDigit_of_mem_text {n : Nat} {c : Char} (h : c ∈ (Number.posInt n).text) :
    c.isDigit = true ∨ c = '-' := Or.inl (isDigit_of_mem_decimal h)

theorem isDigit_of_mem_negative {n : Nat} {c : Char} (h : c ∈ (Number.negInt n).text) :
    c.isDigit = true ∨ c = '-' := by
  rcases List.mem_cons.mp h with h | h
  · exact Or.inr h
  · exact Or.inl (isDigit_of_mem_decimal h)

/-- Numbers are told from their texts. -/
theorem Number.text_inj {m n : Number} (hm : m.Printed) (hn : n.Printed) (h : m.text = n.text) :
    m = n := by
  -- A minus sign is in no text without one.
  have hsign : ∀ a b : Nat, (Number.posInt a).text ≠ (Number.negInt b).text := by
    intro a b hab
    have hminus : '-' ∈ (Number.posInt a).text := hab ▸ List.mem_cons_self
    exact absurd (isDigit_of_mem_decimal hminus) (by decide)
  -- A float is written as no integer is.
  cases m with
  | posInt a =>
      cases n with
      | posInt b => exact congrArg Number.posInt (decimal_injective h)
      | negInt b => exact absurd h (hsign a b)
      | float t => exact absurd h (not_integer_text hn (fun _ => isDigit_of_mem_text))
  | negInt a =>
      cases n with
      | posInt b => exact absurd h.symm (hsign b a)
      | negInt b => exact congrArg Number.negInt (Nat.succ.inj (decimal_injective (List.cons.inj h).2))
      | float t => exact absurd h (not_integer_text hn (fun _ => isDigit_of_mem_negative))
  | float s =>
      cases n with
      | posInt b => exact absurd h.symm (not_integer_text hm (fun _ => isDigit_of_mem_text))
      | negInt b => exact absurd h.symm (not_integer_text hm (fun _ => isDigit_of_mem_negative))
      | float t => exact congrArg Number.float h

theorem Number.text_ne_nil {n : Number} (h : n.Printed) : n.text ≠ [] := by
  cases n with
  | posInt n => exact Nat.toDigits_ne_nil
  | negInt n => exact List.cons_ne_nil _ _
  | float t =>
      rcases h.2 with ⟨c, hc, _⟩
      exact List.ne_nil_of_mem hc

/-- What may follow a value: nothing that goes on a number. -/
def Closed : Str → Prop
  | [] => True
  | c :: _ => isNumberChar c = false

/-- A number and what follows it. -/
theorem Number.text_append_inj {m n : Number} {r s : Str} (hm : m.Printed) (hn : n.Printed)
    (hr : Closed r) (hs : Closed s) (h : m.text ++ r = n.text ++ s) : m = n ∧ r = s := by
  -- The number is the longest front of number characters.
  have hfront : ∀ {k : Number} {x : Str}, k.Printed → Closed x →
      (k.text ++ x).takeWhile isNumberChar = k.text := by
    intro k x hk hx
    rw [List.takeWhile_append_of_pos (List.all_eq_true.mp (all_text hk))]
    cases x with
    | nil => rw [List.takeWhile_nil, List.append_nil]
    | cons c x => rw [List.takeWhile_cons_of_neg (by rw [hx]; exact Bool.false_ne_true), List.append_nil]
  have htext : m.text = n.text := by rw [← hfront hm hr, h, hfront hn hs]
  rcases text_inj hm hn htext with rfl
  exact ⟨rfl, List.append_cancel_left h⟩

/-! ### Values -/

mutual

/-- Every number inside is printed. -/
def Value.Printed : Value → Prop
  | .number n => n.Printed
  | .array items => printedItems items
  | .object members => printedMembers members
  | _ => True

/-- `Printed`, for the items of a list. -/
def printedItems : List Value → Prop
  | [] => True
  | v :: rest => v.Printed ∧ printedItems rest

/-- `Printed`, for the members of an object. -/
def printedMembers : List (Str × Value) → Prop
  | [] => True
  | (_, v) :: rest => v.Printed ∧ printedMembers rest

end

/-- Which kind of value begins with a character. -/
def kindOf (c : Char) : Nat :=
  if c = 'n' then 0 else if c = 't' then 1 else if c = 'f' then 2 else if c = '"' then 3
  else if c = '[' then 4 else if c = '\x7b' then 5 else if isNumberChar c then 6 else 7

/-- The kind of a value. -/
def Value.kindOf : Value → Nat
  | .null => 0
  | .bool true => 1
  | .bool false => 2
  | .string _ => 3
  | .array _ => 4
  | .object _ => 5
  | .number _ => 6

theorem kindOf_number {c : Char} (h : isNumberChar c = true) : Kahea.kindOf c = 6 := by
  have hne : ∀ d, isNumberChar d = false → c ≠ d := fun d hd hcd =>
    absurd h (by rw [hcd, hd]; exact Bool.false_ne_true)
  unfold Kahea.kindOf
  rw [if_neg (hne _ (by decide)), if_neg (hne _ (by decide)), if_neg (hne _ (by decide)),
    if_neg (hne _ (by decide)), if_neg (hne _ (by decide)), if_neg (hne _ (by decide)), if_pos h]

/-- The first character of a text tells the kind of its value. -/
theorem Value.render_head {v : Value} (h : v.Printed) :
    ∃ c rest, v.render = c :: rest ∧ Kahea.kindOf c = v.kindOf := by
  cases v with
  | null => exact ⟨'n', "ull".toList, by rw [render]; rfl, by decide⟩
  | bool b =>
      cases b with
      | true => exact ⟨'t', "rue".toList, by rw [render]; rfl, by decide⟩
      | false => exact ⟨'f', "alse".toList, by rw [render]; rfl, by decide⟩
  | number n =>
      change n.Printed at h
      rcases List.exists_cons_of_ne_nil (Number.text_ne_nil h) with ⟨c, rest, hc⟩
      have hchar := List.all_eq_true.mp (Number.all_text h) c (hc ▸ List.mem_cons_self)
      exact ⟨c, rest, by rw [render, hc], kindOf_number hchar⟩
  | string s => exact ⟨'"', _, by rw [render, quote], rfl⟩
  | array items => exact ⟨'[', _, by rw [render], rfl⟩
  | object members => exact ⟨'\x7b', _, by rw [render], rfl⟩

/-- The first character of a text tells the kind of its value. -/
theorem Value.kindOf_eq {v w : Value} {r s : Str} (hv : v.Printed) (hw : w.Printed)
    (h : v.render ++ r = w.render ++ s) : v.kindOf = w.kindOf := by
  rcases render_head hv with ⟨c, x, hx, hc⟩
  rcases render_head hw with ⟨d, y, hy, hd⟩
  rw [hx, hy, List.cons_append, List.cons_append] at h
  rw [← hc, ← hd, (List.cons.inj h).1]

/-- No text of a value begins with a character of no kind. -/
theorem Value.render_ne_cons {v : Value} {r s : Str} {c : Char} (hv : v.Printed)
    (hc : Kahea.kindOf c = 7) : v.render ++ r ≠ c :: s := by
  rcases render_head hv with ⟨d, x, hx, hd⟩
  intro h
  rw [hx, List.cons_append] at h
  rw [(List.cons.inj h).1, hc] at hd
  cases v with
  | bool b => cases b <;> exact absurd hd (Nat.ne_of_beq_eq_false rfl)
  | _ => exact absurd hd (Nat.ne_of_beq_eq_false rfl)

/-- The items of an array after the first, up to its end. -/
def itemsTail (items : List Value) (rest : Str) : Str :=
  if items = [] then ']' :: rest else ',' :: (Value.renderItems items ++ ']' :: rest)

theorem renderItems_append (v : Value) (items : List Value) (rest : Str) :
    Value.renderItems (v :: items) ++ ']' :: rest = v.render ++ itemsTail items rest := by
  cases items with
  | nil => rw [Value.renderItems, itemsTail, if_pos rfl]
  | cons w items =>
      rw [Value.renderItems, itemsTail, if_neg (List.cons_ne_nil _ _), List.append_assoc,
        List.cons_append]
      exact fun h => absurd h (List.cons_ne_nil _ _)

/-- The members of an object after the first, up to its end. -/
def membersTail (members : List (Str × Value)) (rest : Str) : Str :=
  if members = [] then '\x7d' :: rest else ',' :: (Value.renderMembers members ++ '\x7d' :: rest)

theorem renderMembers_append (k : Str) (v : Value) (members : List (Str × Value)) (rest : Str) :
    Value.renderMembers ((k, v) :: members) ++ '\x7d' :: rest =
      quote k ++ ':' :: (v.render ++ membersTail members rest) := by
  cases members with
  | nil =>
      rw [Value.renderMembers, membersTail, if_pos rfl, List.append_assoc, List.cons_append]
  | cons e members =>
      rw [Value.renderMembers, membersTail, if_neg (List.cons_ne_nil _ _)]
      · simp only [List.append_assoc, List.cons_append]
      · exact fun h => absurd h (List.cons_ne_nil _ _)

theorem closed_itemsTail (items : List Value) (rest : Str) : Closed (itemsTail items rest) := by
  unfold itemsTail
  split_ifs
  · exact (by decide : isNumberChar ']' = false)
  · exact (by decide : isNumberChar ',' = false)

theorem closed_membersTail (members : List (Str × Value)) (rest : Str) :
    Closed (membersTail members rest) := by
  unfold membersTail
  split_ifs
  · exact (by decide : isNumberChar '\x7d' = false)
  · exact (by decide : isNumberChar ',' = false)

mutual

/-- A value and what follows it. -/
theorem Value.render_append_inj : ∀ (v w : Value) {r s : Str}, v.Printed → w.Printed →
    Closed r → Closed s → v.render ++ r = w.render ++ s → v = w ∧ r = s
  -- The first character tells the kind, so both values are of the same one.
  | .null, w, r, s => by
      intro hv hw _ _ h
      have hkind := Value.kindOf_eq hv hw h
      cases w with
      | null => exact ⟨rfl, List.append_cancel_left h⟩
      | bool b => cases b <;> exact absurd hkind (Nat.ne_of_beq_eq_false rfl)
      | _ => exact absurd hkind (Nat.ne_of_beq_eq_false rfl)
  | .bool a, w, r, s => by
      intro hv hw _ _ h
      have hkind := Value.kindOf_eq hv hw h
      cases w with
      | bool b =>
          cases a <;> cases b
          · exact ⟨rfl, List.append_cancel_left h⟩
          · exact absurd hkind (Nat.ne_of_beq_eq_false rfl)
          · exact absurd hkind (Nat.ne_of_beq_eq_false rfl)
          · exact ⟨rfl, List.append_cancel_left h⟩
      | _ => cases a <;> exact absurd hkind (Nat.ne_of_beq_eq_false rfl)
  -- A number ends where no digit can follow, which is why the rest is closed.
  | .number n, w, r, s => by
      intro hv hw hr hs h
      have hkind := Value.kindOf_eq hv hw h
      cases w with
      | number m =>
          rw [Value.render, Value.render] at h
          rcases Number.text_append_inj hv
            hw hr hs h with ⟨rfl, hrest⟩
          exact ⟨rfl, hrest⟩
      | bool b => cases b <;> exact absurd hkind (Nat.ne_of_beq_eq_false rfl)
      | _ => exact absurd hkind (Nat.ne_of_beq_eq_false rfl)
  | .string a, w, r, s => by
      intro hv hw _ _ h
      have hkind := Value.kindOf_eq hv hw h
      cases w with
      | string b =>
          rw [Value.render, Value.render] at h
          rcases quote_append_inj h with ⟨rfl, hrest⟩
          exact ⟨rfl, hrest⟩
      | bool b => cases b <;> exact absurd hkind (Nat.ne_of_beq_eq_false rfl)
      | _ => exact absurd hkind (Nat.ne_of_beq_eq_false rfl)
  -- The items and the members end with their bracket.
  | .array xs, w, r, s => by
      intro hv hw _ _ h
      have hkind := Value.kindOf_eq hv hw h
      cases w with
      | array ys =>
          rw [Value.render, Value.render, List.cons_append, List.cons_append, List.append_assoc,
            List.append_assoc] at h
          rcases renderItems_append_inj xs ys hv
            hw (List.cons.inj h).2 with ⟨rfl, hrest⟩
          exact ⟨rfl, hrest⟩
      | bool b => cases b <;> exact absurd hkind (Nat.ne_of_beq_eq_false rfl)
      | _ => exact absurd hkind (Nat.ne_of_beq_eq_false rfl)
  | .object m, w, r, s => by
      intro hv hw _ _ h
      have hkind := Value.kindOf_eq hv hw h
      cases w with
      | object n =>
          rw [Value.render, Value.render, List.cons_append, List.cons_append, List.append_assoc,
            List.append_assoc] at h
          rcases renderMembers_append_inj m n hv
            hw (List.cons.inj h).2 with ⟨rfl, hrest⟩
          exact ⟨rfl, hrest⟩
      | bool b => cases b <;> exact absurd hkind (Nat.ne_of_beq_eq_false rfl)
      | _ => exact absurd hkind (Nat.ne_of_beq_eq_false rfl)

/-- Items are told from their texts, up to the closing bracket. -/
theorem renderItems_append_inj : ∀ (xs ys : List Value) {r s : Str}, printedItems xs →
    printedItems ys → Value.renderItems xs ++ ']' :: r = Value.renderItems ys ++ ']' :: s →
    xs = ys ∧ r = s
  | [], ys, r, s => by
      intro _ hys h
      cases ys with
      | nil => exact ⟨rfl, (List.cons.inj h).2⟩
      | cons y ys =>
          rw [renderItems_append] at h
          exact absurd h.symm (Value.render_ne_cons hys.1 (by decide))
  | x :: xs, ys, r, s => by
      intro hxs hys h
      cases ys with
      | nil =>
          rw [renderItems_append] at h
          exact absurd h (Value.render_ne_cons hxs.1 (by decide))
      | cons y ys =>
          rw [renderItems_append, renderItems_append] at h
          rcases Value.render_append_inj x y hxs.1 hys.1 (closed_itemsTail _ _)
            (closed_itemsTail _ _) h with ⟨rfl, htail⟩
          -- Both arrays end here, or both go on after a comma.
          unfold itemsTail at htail
          split_ifs at htail with hx hy hy
          · exact ⟨by rw [hx, hy], (List.cons.inj htail).2⟩
          · exact absurd (List.cons.inj htail).1 (by decide)
          · exact absurd (List.cons.inj htail).1 (by decide)
          · rcases renderItems_append_inj xs ys hxs.2 hys.2 (List.cons.inj htail).2
              with ⟨rfl, hrest⟩
            exact ⟨rfl, hrest⟩

/-- Members are told from their texts, up to the closing brace. -/
theorem renderMembers_append_inj : ∀ (m n : List (Str × Value)) {r s : Str}, printedMembers m →
    printedMembers n →
    Value.renderMembers m ++ '\x7d' :: r = Value.renderMembers n ++ '\x7d' :: s → m = n ∧ r = s
  | [], n, r, s => by
      intro _ hn h
      cases n with
      | nil => exact ⟨rfl, (List.cons.inj h).2⟩
      | cons e n =>
          rcases e with ⟨l, w⟩
          rw [renderMembers_append] at h
          exact absurd (List.cons.inj h).1 (by decide)
  | (k, v) :: m, n, r, s => by
      intro hm hn h
      cases n with
      | nil =>
          rw [renderMembers_append] at h
          exact absurd (List.cons.inj h).1 (by decide)
      | cons e n =>
          rcases e with ⟨l, w⟩
          rw [renderMembers_append, renderMembers_append] at h
          -- The key is quoted, so it ends at the same place in both.
          rcases quote_append_inj h with ⟨rfl, hvalue⟩
          rcases Value.render_append_inj v w hm.1 hn.1 (closed_membersTail _ _)
            (closed_membersTail _ _) (List.cons.inj hvalue).2 with ⟨rfl, htail⟩
          unfold membersTail at htail
          -- Both go on with a comma or both are at the brace.
          split_ifs at htail with hx hy hy
          · exact ⟨by rw [hx, hy], (List.cons.inj htail).2⟩
          · exact absurd (List.cons.inj htail).1 (by decide)
          · exact absurd (List.cons.inj htail).1 (by decide)
          · rcases renderMembers_append_inj m n hm.2 hn.2 (List.cons.inj htail).2
              with ⟨rfl, hrest⟩
            exact ⟨rfl, hrest⟩

end

/-- Values that are written alike are equal. -/
theorem Value.render_inj {v w : Value} (hv : v.Printed) (hw : w.Printed) (h : v.render = w.render) :
    v = w := by
  have happend : v.render ++ [] = w.render ++ [] := by rw [h]
  exact (@render_append_inj v w [] [] hv hw trivial trivial happend).1

end Kahea

import Kahea.Base.Search
import Kahea.Core.Reference
import Kahea.Workflow.Expression

/-!
# Simple Conditions

A simple condition is an operand, an operator and a literal. It is read by
looking for the six operators in a fixed order over the whole text, so an
operator in a quoted literal is found before the one in front of it when the
order has it first.

`condition_read_iff` says exactly when a written condition is read as what it
says: its operand must be there without white space around it, and no operator
the order has before the condition's own may stand in the literal.

## Main definitions

* `Literal`: The literals of a condition, with their text and their value.
* `Literal.Read`: What reading a literal relies on.
* `conditionText`: A condition as it is written.

## Theorems

* `parseLiteral_text`: A literal is read as its value.
* `splitOnce_conditionText`: Where a written condition is split.
* `condition_read_iff`: When a condition is read as it is written.
-/

namespace Kahea

/-! ### Literals -/

/-- The literals of a condition; a number in any spelling JSON has for it. -/
inductive Literal where
  | number (text : Str) (value : Number)
  | bool (value : Bool)
  | null
  | quoted (value : Str)
  deriving DecidableEq, Repr

def Literal.value : Literal → Value
  | number _ n => .number n
  | bool b => .bool b
  | null => .null
  | quoted s => .string s

/-- The text of a literal: in a quoted one the quotes are doubled. -/
def Literal.text : Literal → Str
  | number text _ => text
  | bool true => "true"
  | bool false => "false"
  | null => "null"
  | quoted s => '\'' :: (replaceAll "'" "''" s ++ ['\''])

/-- The characters of a JSON number. -/
def numberCharacters : Str := "0123456789+-.eE"

/-- What reading a literal relies on: that the JSON reader knows the text of a
    number and the three names. -/
def Literal.Read (lib : Crates) : Literal → Prop
  | number text n => text ≠ [] ∧ (∀ c ∈ text, c ∈ numberCharacters) ∧
      lib.parseJson (utf8 text) = .ok (.number n)
  | bool b => lib.parseJson (utf8 (bool b).text) = .ok (.bool b)
  | null => lib.parseJson (utf8 "null") = .ok .null
  | quoted _ => True

/-- Doubled quotes are read as one. -/
theorem replaceAll_doubled (s : Str) : replaceAll "''" "'" (replaceAll "'" "''" s) = s := by
  have hsingle : replaceAll "'" "''" s =
      s.flatMap (fun d => if d = '\'' then "''".toList else [d]) := replaceAll_singleton '\'' _ s
  have hne : "''".toList ≠ [] := by decide
  rw [hsingle]
  unfold replaceAll
  rw [if_neg hne]
  -- By the text: a quote is doubled, and the double is read back.
  induction s with
  | nil => rfl
  | cons c s ih =>
      rw [List.flatMap_cons]
      by_cases hc : c = '\''
      · rw [if_pos hc, replaceFrom_append _ _ _ hne, ih (replaceAll_singleton '\'' _ s), hc]
        rfl
      -- Any other character begins no double quote.
      · have hstart : startsWith "''"
            (c :: s.flatMap (fun d => if d = '\'' then "''".toList else [d])) = false := by
          rw [startsWith, Bool.eq_false_iff, Ne, List.isPrefixOf_iff_prefix]
          intro h
          exact hc (List.cons_prefix_cons.mp h).1.symm
        rw [if_neg hc, List.singleton_append, replaceFrom_cons _ _ _ _ hstart,
          ih (replaceAll_singleton '\'' _ s)]

section

variable {lib : Crates}

theorem startsWith_quote_of_number {text : Str} (h : ∀ c ∈ text, c ∈ numberCharacters) :
    startsWith "'" text = false := by
  cases text with
  | nil => rfl
  | cons c text =>
      rw [startsWith, Bool.eq_false_iff, Ne, List.isPrefixOf_iff_prefix]
      intro hpre
      have hquote : '\'' ∈ numberCharacters := by
        have hc : '\'' = c := (List.cons_prefix_cons.mp hpre).1
        exact hc ▸ h c List.mem_cons_self
      exact absurd hquote (by decide)

/-- A literal is read as its value. -/
theorem parseLiteral_text {literal : Literal} (h : literal.Read lib) :
    parseLiteral lib literal.text = .ok literal.value := by
  -- A literal that does not begin with a quote is read as JSON.
  have hplain {text : Str} {value : Value} (hstart : startsWith "'" text = false)
      (hparse : lib.parseJson (utf8 text) = .ok value) : parseLiteral lib text = .ok value := by
    unfold parseLiteral
    rw [hstart, if_neg (by simp), hparse]
  cases literal with
  | number text n => exact hplain (startsWith_quote_of_number h.2.1) h.2.2
  | bool b =>
      cases b with
      | true => exact hplain (by decide) h
      | false => exact hplain (by decide) h
  | null => exact hplain (by decide) h
  | quoted s =>
      -- A quoted text is what stands between its quotes, of which there are two.
      unfold parseLiteral
      rw [if_pos]
      · rw [Literal.text, List.drop_succ_cons, List.drop_zero, List.dropLast_concat,
          replaceAll_doubled]
        rfl
      · refine ⟨?_, ?_, ?_⟩
        · rw [startsWith, List.isPrefixOf_iff_prefix]
          exact List.prefix_append ['\''] _
        · rw [endsWith, List.isSuffixOf_iff_suffix]
          exact ⟨'\'' :: replaceAll "'" "''" s, rfl⟩
        · rw [Literal.text, ← List.singleton_append, utf8_append, utf8_append, List.length_append,
            List.length_append]
          have hquote : (utf8 ['\'']).length = 1 := by decide
          omega

/-- No literal has white space at its ends. -/
theorem trimmed_text {literal : Literal} (h : literal.Read lib) :
    Trimmed literal.text ∧ literal.text ≠ [] := by
  cases literal with
  | number text n =>
      have hall : numberCharacters.all (fun c => !isWhiteSpace c) = true := by decide
      have hplain : ∀ c ∈ numberCharacters, isWhiteSpace c = false := by
        intro c hc
        have hone := List.all_eq_true.mp hall c hc
        rwa [Bool.not_eq_true'] at hone
      -- No character of a number is white space.
      refine ⟨⟨fun c hc => ?_, fun c hc => ?_⟩, h.1⟩
      · exact hplain c (h.2.1 c (List.mem_of_mem_head? hc))
      · exact hplain c (h.2.1 c (List.mem_of_mem_getLast? hc))
  | bool b =>
      cases b with
      | true => exact ⟨trim_eq_self_iff.mp (by decide), by decide⟩
      | false => exact ⟨trim_eq_self_iff.mp (by decide), by decide⟩
  | null => exact ⟨trim_eq_self_iff.mp (by decide), by decide⟩
  | quoted s =>
      -- A quoted text begins and ends with its quotes.
      refine ⟨⟨fun c hc => ?_, fun c hc => ?_⟩, List.cons_ne_nil _ _⟩
      · rw [← Option.some.inj hc]
        decide
      · rw [Literal.text, ← List.cons_append, List.getLast?_concat] at hc
        rw [← Option.some.inj hc]
        decide

end

/-! ### Conditions -/

/-- The characters operators are made of. -/
def comparisonCharacters : Str := "<>=!"

/-- A condition as it is written. -/
def conditionText (operand operator : Str) (literal : Literal) : Str :=
  operand ++ ' ' :: (operator ++ ' ' :: literal.text)

/-- The operators that are looked for before one. -/
def earlierOperators (operator : Str) : List Str :=
  conditionOperators.takeWhile (fun o => o ≠ operator)

theorem operator_characters {operator : Str} (h : operator ∈ conditionOperators) :
    operator ≠ [] ∧ ' ' ∉ operator ∧ ∀ c ∈ operator, c ∈ comparisonCharacters := by
  have hall : ∀ o ∈ conditionOperators, o ≠ [] ∧ ' ' ∉ o ∧ ∀ c ∈ o, c ∈ comparisonCharacters := by
    have hchecked : conditionOperators.all (fun o => o ≠ [] && !o.contains ' ' &&
        o.all (fun c => comparisonCharacters.contains c)) = true := by decide
    intro o ho
    have hone := List.all_eq_true.mp hchecked o ho
    simp only [Bool.and_eq_true, decide_eq_true_eq, Bool.not_eq_true', List.contains_eq_mem,
      decide_eq_false_iff_not, List.all_eq_true] at hone
    exact ⟨hone.1.1, hone.1.2, hone.2⟩
  exact hall operator h

/-- The list of operators at one of them. -/
theorem earlierOperators_spec {operator : Str} (h : operator ∈ conditionOperators) :
    (∃ later, conditionOperators = earlierOperators operator ++ operator :: later) ∧
      ∀ o ∈ earlierOperators operator, o ∈ conditionOperators ∧ ¬ o <:+: operator := by
  have hall : ∀ operator ∈ conditionOperators,
      conditionOperators = earlierOperators operator ++ operator ::
        conditionOperators.drop ((earlierOperators operator).length + 1) ∧
      ∀ o ∈ earlierOperators operator, o ∈ conditionOperators ∧ ¬ o <:+: operator := by
    decide
  rcases hall operator h with ⟨hsplit, hearlier⟩
  exact ⟨⟨_, hsplit⟩, hearlier⟩

/-- An operand without comparison characters contains no operator. -/
theorem not_infix_operand {operand o : Str} (hoperand : ∀ c ∈ operand, c ∉ comparisonCharacters)
    (ho : o ∈ conditionOperators) : ¬ o <:+: operand := by
  rcases operator_characters ho with ⟨hne, _, hcharacters⟩
  intro h
  cases o with
  | nil => exact hne rfl
  | cons c o =>
      exact hoperand c (h.subset List.mem_cons_self) (hcharacters c List.mem_cons_self)

/-- An earlier operator occurs in a written condition only where its literal
    has it. -/
theorem infix_conditionText {operand operator o : Str} {literal : Literal}
    (hoperand : ∀ c ∈ operand, c ∉ comparisonCharacters) (hoperator : operator ∈ conditionOperators)
    (ho : o ∈ earlierOperators operator) :
    o <:+: conditionText operand operator literal ↔ o <:+: literal.text := by
  rcases (earlierOperators_spec hoperator).2 o ho with ⟨hmem, hnot⟩
  have hspace := (operator_characters hmem).2.1
  unfold conditionText
  rw [infix_append_cons_iff hspace, infix_append_cons_iff hspace,
    or_iff_right (not_infix_operand hoperand hmem), or_iff_right hnot]

/-- Operators that do not occur are passed over. -/
theorem splitCondition_append {condition : Str} {first : List Str}
    (h : ∀ o ∈ first, ¬ o <:+: condition) (rest : List Str) :
    splitCondition condition (first ++ rest) = splitCondition condition rest := by
  induction first with
  | nil => rfl
  | cons o first ih =>
      rw [List.forall_mem_cons] at h
      rw [List.cons_append, splitCondition, splitOnce_eq_none.mpr h.1]
      exact ih h.2

/-- Where a condition is split: at an operator no earlier one of which occurs. -/
theorem splitCondition_ok {condition left operator right : Str} {operators : List Str}
    (h : splitCondition condition operators = some (left, operator, right)) :
    (∃ a, left = trim a ∧ left ≠ []) ∧ ∃ first rest, operators = first ++ operator :: rest ∧
      ∀ o ∈ first, ¬ o <:+: condition := by
  -- By the operators; those tried before do not occur.
  induction operators with
  | nil => cases h
  | cons o operators ih =>
      unfold splitCondition at h
      cases hsplit : splitOnce o condition with
      | some sides =>
          rw [hsplit] at h
          rcases sides with ⟨a, b⟩
          dsimp only at h
          split_ifs at h with hempty
          cases h
          rw [not_or] at hempty
          exact ⟨⟨a, rfl, hempty.1⟩, [], operators, rfl, fun o ho => absurd ho List.not_mem_nil⟩
      | none =>
          rw [hsplit] at h
          rcases ih h with ⟨hleft, first, rest, rfl, hfirst⟩
          refine ⟨hleft, o :: first, rest, rfl, ?_⟩
          rw [List.forall_mem_cons]
          exact ⟨splitOnce_eq_none.mp hsplit, hfirst⟩

/-- A written condition is split at its own operator. -/
theorem splitOnce_conditionText {operand operator : Str} {literal : Literal}
    (hoperand : ∀ c ∈ operand, c ∉ comparisonCharacters) (hoperator : operator ∈ conditionOperators) :
    splitOnce operator (conditionText operand operator literal) =
      some (operand ++ [' '], ' ' :: literal.text) := by
  rcases operator_characters hoperator with ⟨hne, hspace, _⟩
  rw [splitOnce_iff hne]
  constructor
  · simp [conditionText]
  · rw [List.append_assoc, List.singleton_append, infix_append_cons_iff hspace,
      or_iff_right (not_infix_operand hoperand hoperator)]
    intro h
    have hlength := h.length_le
    have hpos : 0 < operator.length := List.length_pos_iff.mpr hne
    rw [List.length_dropLast] at hlength
    omega

section

variable {lib : Crates} {operand operator : Str} {literal : Literal}

/-- A condition is read as its operand, its operator and its literal exactly
    when its operand is there without white space around it and no operator that
    is looked for earlier stands in the literal. -/
theorem condition_read_iff (hoperand : ∀ c ∈ operand, c ∉ comparisonCharacters)
    (hoperator : operator ∈ conditionOperators) (hliteral : literal.Read lib) :
    (∃ right, parseSimpleCondition (conditionText operand operator literal) =
        .ok (operand, operator, right) ∧ parseLiteral lib right = .ok literal.value) ↔
      operand ≠ [] ∧ trim operand = operand ∧
        ∀ o ∈ earlierOperators operator, ¬ o <:+: literal.text := by
  rcases earlierOperators_spec hoperator with ⟨⟨later, hoperators⟩, _⟩
  unfold parseSimpleCondition
  constructor
  · rintro ⟨right, hparse, _⟩
    cases hsplit : splitCondition (conditionText operand operator literal) conditionOperators with
    | none =>
        rw [hsplit] at hparse
        cases hparse
    | some parts =>
        rw [hsplit] at hparse
        cases hparse
        rcases splitCondition_ok hsplit with ⟨⟨a, ha, hne⟩, first, rest, hlist, hfirst⟩
        refine ⟨hne, ?_, fun o ho hinfix => ?_⟩
        · rw [ha]
          exact (trimmed_trim a).trim_eq
        · -- The list has the operator once, so what was passed over are the earlier ones.
          have hnodup : conditionOperators.Nodup := by decide
          rw [hlist, List.nodup_append, List.nodup_cons] at hnodup
          have hmem : operator ∉ first := by
            intro h
            exact hnodup.2.2 operator h operator List.mem_cons_self rfl
          have hsame := (List.append_cons_inj_of_notMem hmem hnodup.2.1.1).mp
            (hlist.symm.trans hoperators)
          refine hfirst o (hsame.1 ▸ ho) ?_
          exact (infix_conditionText hoperand hoperator ho).mpr hinfix
  · rintro ⟨hne, htrim, hearlier⟩
    refine ⟨literal.text, ?_, parseLiteral_text hliteral⟩
    have hpassed : ∀ o ∈ earlierOperators operator, ¬ o <:+: conditionText operand operator literal :=
      fun o ho hinfix => hearlier o ho ((infix_conditionText hoperand hoperator ho).mp hinfix)
    rcases trimmed_text hliteral with ⟨htext, htextNe⟩
    rw [hoperators, splitCondition_append hpassed, splitCondition,
      splitOnce_conditionText hoperand hoperator]
    dsimp only
    rw [trim_append_space, htrim, trim_space, htext.trim_eq, if_neg (by tauto)]

end

/-- A comparison of a name with a quoted text that has no operator in it. -/
theorem condition_read_plain : ∃ right, parseSimpleCondition "$response.body.name == 'it''s'" =
      .ok ("$response.body.name".toList, "==".toList, right) ∧
    parseLiteral referenceCrates right = .ok (.string "it's") := by
  have hall : "$response.body.name".toList.all (fun c => !comparisonCharacters.contains c) = true := by
    decide
  have hoperand : ∀ c ∈ "$response.body.name".toList, c ∉ comparisonCharacters := by
    intro c hc
    have hone := List.all_eq_true.mp hall c hc
    rw [Bool.not_eq_true', List.contains_eq_mem, decide_eq_false_iff_not] at hone
    exact hone
  exact (@condition_read_iff referenceCrates "$response.body.name" "==" (.quoted "it's") hoperand
    (by decide) trivial).mpr (by decide)

/-- An operator in a quoted text is taken for the operator of the condition. -/
theorem condition_misread : ¬ ∃ right, parseSimpleCondition "$response.body.name == 'a<=b'" =
      .ok ("$response.body.name".toList, "==".toList, right) ∧
    parseLiteral referenceCrates right = .ok (.string "a<=b") := by
  have hread : parseSimpleCondition "$response.body.name == 'a<=b'" =
      .ok ("$response.body.name == 'a".toList, "<=".toList, "b'".toList) := by decide
  rintro ⟨right, hparse, _⟩
  rw [hread] at hparse
  exact absurd hparse (by simp)

end Kahea

import Mathlib.Data.List.DropRight

/-! Scanning text: trimmed ends, words between spaces, lines, and the longest readable beginning. -/

namespace AmpFc

universe u v

section Beginnings

variable {Symbol : Type u} {Value : Type v}

/-- The longest beginning that can be read, as its value and the text behind it. -/
def readLongest : (List Symbol → Option Value) → List Symbol → Option (Value × List Symbol)
  | read, [] => (read []).map fun value => (value, [])
  | read, head :: tail =>
    -- A beginning that takes the head is longer than the one that stops before it.
    match readLongest (fun more => read (head :: more)) tail with
    | some found => some found
    | none => (read []).map fun value => (value, head :: tail)

/-- A text splits behind a beginning, and no longer beginning can be read. -/
structure SplitsLongest (read : List Symbol → Option Value) (text beginning rest : List Symbol) :
    Prop where
  split : text = beginning ++ rest
  longest : ∀ longer more, text = longer ++ more → (read longer).isSome = true →
    longer.length ≤ beginning.length

/-- Nothing is read exactly if no beginning can be read. -/
theorem readLongest_eq_none {read : List Symbol → Option Value} {text : List Symbol} :
    readLongest read text = none ↔
      ∀ beginning rest, text = beginning ++ rest → read beginning = none := by
  -- The induction follows the text; its head moves into the reader.
  induction text generalizing read with
  | nil =>
    rw [readLongest, Option.map_eq_none_iff]
    constructor
    · -- The empty text has one beginning, itself.
      intro unread beginning rest split
      rw [(List.nil_eq_append_iff.mp split).1]
      exact unread
    · intro unread
      exact unread [] [] rfl
  | cons head tail ih =>
    rw [readLongest]
    constructor
    · intro unread beginning rest split
      cases longer : readLongest (fun more => read (head :: more)) tail with
      | some found => simp [longer] at unread
      | none =>
        rw [longer, Option.map_eq_none_iff] at unread
        -- A beginning is empty, or it takes the head and is one of the tail's.
        cases beginning with
        | nil => exact unread
        | cons first more =>
          rw [List.cons_append, List.cons.injEq] at split
          rw [← split.1]
          exact ih.mp longer more rest split.2
    · intro unread
      -- A beginning of the tail, with the head in front, is one of the whole text.
      have longer : readLongest (fun more => read (head :: more)) tail = none := by
        apply ih.mpr
        intro more rest split
        exact unread (head :: more) rest (congrArg (head :: ·) split)
      rw [longer, unread [] (head :: tail) rfl]
      rfl

/-- What is read is the longest beginning that can be. -/
theorem readLongest_eq_some {read : List Symbol → Option Value} {text rest : List Symbol}
    {value : Value} :
    readLongest read text = some (value, rest) ↔
      ∃ beginning, read beginning = some value ∧ SplitsLongest read text beginning rest := by
  induction text generalizing read rest value with
  | nil =>
    rw [readLongest, Option.map_eq_some_iff]
    constructor
    · intro found
      obtain ⟨_, whole, same⟩ := found
      obtain ⟨rfl, rfl⟩ := Prod.mk.inj same
      refine ⟨[], whole, rfl, ?_⟩
      intro longer more split _
      rw [(List.nil_eq_append_iff.mp split).1]
    · intro found
      obtain ⟨beginning, whole, splits⟩ := found
      obtain ⟨rfl, rfl⟩ := List.nil_eq_append_iff.mp splits.split
      exact ⟨value, whole, rfl⟩
  | cons head tail ih =>
    rw [readLongest]
    cases longer : readLongest (fun more => read (head :: more)) tail with
    | some found =>
      obtain ⟨foundValue, foundRest⟩ := found
      obtain ⟨more, whole, splits⟩ := ih.mp longer
      -- Behind the head something can be read, so the longest beginning takes the head.
      have taken : SplitsLongest read (head :: tail) (head :: more) foundRest := by
        refine ⟨congrArg (head :: ·) splits.split, ?_⟩
        intro other rest split reads
        cases other with
        | nil => simp
        | cons first other =>
          rw [List.cons_append, List.cons.injEq] at split
          obtain ⟨rfl, split⟩ := split
          exact Nat.succ_le_succ (splits.longest other rest split reads)
      constructor
      · intro same
        obtain ⟨rfl, rfl⟩ := Prod.mk.inj (Option.some.inj same)
        exact ⟨head :: more, whole, taken⟩
      · intro found
        obtain ⟨beginning, reads, begins⟩ := found
        -- Each of the two is as long as the other, so they are the same beginning.
        have lengths : (head :: more).length = beginning.length :=
          Nat.le_antisymm (begins.longest _ _ taken.split (by simp [whole]))
            (taken.longest _ _ begins.split (by simp [reads]))
        obtain ⟨rfl, rfl⟩ :=
          List.append_inj (taken.split.symm.trans begins.split) lengths
        rw [reads] at whole
        rw [Option.some.inj whole]
    | none =>
      -- Nothing that takes the head can be read, so only the empty beginning can be.
      have unread := readLongest_eq_none.mp longer
      rw [Option.map_eq_some_iff]
      constructor
      · intro found
        obtain ⟨_, whole, same⟩ := found
        obtain ⟨rfl, rfl⟩ := Prod.mk.inj same
        refine ⟨[], whole, rfl, ?_⟩
        intro other rest split reads
        cases other with
        | nil => simp
        | cons first other =>
          rw [List.cons_append, List.cons.injEq] at split
          rw [← split.1, unread other rest split.2] at reads
          cases reads
      · intro found
        obtain ⟨beginning, reads, begins⟩ := found
        have split := begins.split
        cases beginning with
        | nil => exact ⟨value, reads, by rw [split]; rfl⟩
        | cons first more =>
          rw [List.cons_append, List.cons.injEq] at split
          rw [← split.1, unread more rest split.2] at reads
          cases reads

end Beginnings

section Marks

variable {Symbol : Type u} [DecidableEq Symbol] {mark : Symbol} {left : List Symbol}

/-- A text with a mark in it splits at the first one. -/
theorem split_at_mark {text : List Symbol} (marked : mark ∈ text) :
    text = text.takeWhile (· ≠ mark) ++ mark :: (text.dropWhile (· ≠ mark)).drop 1 := by
  -- The induction walks up to the mark.
  induction text with
  | nil => cases marked
  | cons head tail ih =>
    by_cases here : head = mark
    · simp [here]
    · -- The mark stands further on.
      have later : mark ∈ tail := by
        rcases List.mem_cons.mp marked with same | later
        · exact absurd same.symm here
        · exact later
      simpa [here] using ih later

/-- What stands before the first mark is taken, -/
theorem takeWhile_mark (first : mark ∉ left) (right : List Symbol) :
    (left ++ mark :: right).takeWhile (· ≠ mark) = left := by
  rw [List.takeWhile_append_of_pos]
  · simp
  · intro symbol member
    simpa using fun same : symbol = mark => first (same ▸ member)

/-- and the rest begins with the mark. -/
theorem dropWhile_mark (first : mark ∉ left) (right : List Symbol) :
    (left ++ mark :: right).dropWhile (· ≠ mark) = mark :: right := by
  rw [List.dropWhile_append_of_pos]
  · simp
  · intro symbol member
    simpa using fun same : symbol = mark => first (same ▸ member)

end Marks

section Words

variable {Symbol : Type u}

/-- A text without the blanks at its two ends. -/
def trimBlanks (blank : Symbol → Bool) (text : List Symbol) : List Symbol :=
  (text.dropWhile blank).rdropWhile blank

/-- A text whose first symbol is not blank keeps it when its end is trimmed. -/
theorem head_rdropWhile {blank : Symbol → Bool} {head : Symbol} (solid : blank head = false)
    (tail : List Symbol) : ∃ more, (head :: tail).rdropWhile blank = head :: more := by
  -- The induction removes the tail from its end.
  induction tail using List.reverseRecOn with
  | nil => exact ⟨[], List.rdropWhile_eq_self_iff.mpr (by simp [solid])⟩
  | append_singleton tail last ih =>
    rw [← List.cons_append]
    cases final : blank last with
    | true =>
      rw [List.rdropWhile_concat_pos _ _ _ final]
      exact ih
    | false =>
      rw [List.rdropWhile_concat_neg _ _ _ (by simp [final])]
      exact ⟨tail ++ [last], rfl⟩

/-- A text whose first symbol is not blank keeps it when it is trimmed. -/
theorem trimBlanks_head {blank : Symbol → Bool} {head : Symbol} (solid : blank head = false)
    (tail : List Symbol) : ∃ more, trimBlanks blank (head :: tail) = head :: more := by
  rw [trimBlanks, List.dropWhile_cons_of_neg (by simp [solid])]
  exact head_rdropWhile solid tail

/-- A trimmed text does not begin with a blank. -/
theorem trimBlanks_solid {blank : Symbol → Bool} {text more : List Symbol} {head : Symbol}
    (begins : trimBlanks blank text = head :: more) : blank head = false := by
  unfold trimBlanks at begins
  cases dropped : text.dropWhile blank with
  | nil => simp [dropped] at begins
  | cons first rest =>
    -- Dropping the blanks in front stops at a symbol that is none.
    have solid : blank first = false := by
      simpa [dropped] using List.head_dropWhile_not blank (l := text) (by simp [dropped])
    obtain ⟨more', kept⟩ := head_rdropWhile solid rest
    rw [dropped, kept, List.cons.injEq] at begins
    rw [← begins.1]
    exact solid

/-- Trimming once is enough. -/
@[simp] theorem trimBlanks_trimBlanks (blank : Symbol → Bool) (text : List Symbol) :
    trimBlanks blank (trimBlanks blank text) = trimBlanks blank text := by
  cases trimmed : trimBlanks blank text with
  | nil => rfl
  | cons head more =>
    -- Nothing is left to drop in front, and dropping at the end is idempotent.
    have solid := trimBlanks_solid trimmed
    rw [trimBlanks, List.dropWhile_cons_of_neg (by simp [solid]), ← trimmed, trimBlanks]
    exact List.rdropWhile_idempotent blank _

/-- A word holds nothing to trim. -/
theorem trimBlanks_word {blank : Symbol → Bool} {word : List Symbol}
    (solid : ∀ symbol ∈ word, blank symbol = false) : trimBlanks blank word = word := by
  -- Neither end has a blank to drop.
  have front : word.dropWhile blank = word := by
    cases word with
    | nil => rfl
    | cons head tail =>
      exact List.dropWhile_cons_of_neg (by simp [solid head List.mem_cons_self])
  rw [trimBlanks, front, List.rdropWhile_eq_self_iff]
  intro nonempty
  simp [solid _ (List.getLast_mem nonempty)]

/-- The next word of a stream and what remains behind it; at the end the word is empty. -/
def nextWord (space : Symbol → Bool) (text : List Symbol) : List Symbol × List Symbol :=
  let body := text.dropWhile space
  (body.takeWhile fun symbol => !space symbol, body.dropWhile fun symbol => !space symbol)

/-- A text is a gap, then a word, then a rest that no longer belongs to the word. -/
structure WordBehind (space : Symbol → Bool) (text gap word rest : List Symbol) : Prop where
  split : text = gap ++ (word ++ rest)
  gapBlank : ∀ symbol ∈ gap, space symbol = true
  wordSolid : ∀ symbol ∈ word, space symbol = false
  restBlank : ∀ symbol ∈ rest.head?, space symbol = true
  nonempty : word ≠ []

/-- The word found is the one behind the gap. -/
theorem nextWord_eq {space : Symbol → Bool} {text gap word rest : List Symbol}
    (behind : WordBehind space text gap word rest) : nextWord space text = (word, rest) := by
  have solid : ∀ symbol ∈ word, (!space symbol) = true := by
    intro symbol member
    simp [behind.wordSolid symbol member]
  -- Dropping spaces removes the gap and stops at the word.
  have body : text.dropWhile space = word ++ rest := by
    rw [behind.split, List.dropWhile_append_of_pos behind.gapBlank]
    cases word with
    | nil => exact absurd rfl behind.nonempty
    | cons head tail =>
      rw [List.cons_append, List.dropWhile_cons_of_neg]
      simp [behind.wordSolid head List.mem_cons_self]
  simp only [nextWord, body]
  rw [List.takeWhile_append_of_pos solid, List.dropWhile_append_of_pos solid]
  -- The rest is empty, or it begins with a space.
  cases rest with
  | nil => simp
  | cons head tail =>
    have blank : space head = true := behind.restBlank head rfl
    simp [blank]

/-- Every text with a word in it splits around its first one. -/
theorem nextWord_behind {space : Symbol → Bool} {text : List Symbol}
    (nonempty : (nextWord space text).1 ≠ []) :
    WordBehind space text (text.takeWhile space) (nextWord space text).1
      (nextWord space text).2 where
  split := by
    unfold nextWord
    rw [List.takeWhile_append_dropWhile, List.takeWhile_append_dropWhile]
  gapBlank _ member := List.mem_takeWhile_imp member
  wordSolid _ member := by
    have solid := List.mem_takeWhile_imp member
    simpa using solid
  restBlank head first := by
    -- What remains begins where the word stopped, which is at a space.
    have stops := List.head?_dropWhile_not (fun symbol => !space symbol) (text.dropWhile space)
    unfold nextWord at first
    rw [Option.mem_def.mp first] at stops
    simpa using stops
  nonempty := nonempty

end Words

section Lines

variable {Symbol : Type u} [DecidableEq Symbol]

/-- The lines of a text; a newline at its very end opens no further line. -/
def splitLines (newline : Symbol) : List Symbol → List (List Symbol)
  | [] => []
  | symbol :: text =>
    if symbol = newline then [] :: splitLines newline text
    else
      -- The symbol goes in front of the line that the rest of the text begins with.
      match splitLines newline text with
      | [] => [[symbol]]
      | line :: lines => (symbol :: line) :: lines

example : splitLines '\n' "one\n\ntwo\n".toList = ["one".toList, [], "two".toList] := by decide

end Lines

section Last

variable {α : Type u} {Holds : α → Prop}

/-- The last element of a list that satisfies a predicate. -/
def LastWith (Holds : α → Prop) (list : List α) (element : α) : Prop :=
  ∃ before after, list = before ++ element :: after ∧ Holds element ∧
    ∀ later ∈ after, ¬ Holds later

/-- An element added at the end is the last one if it satisfies the predicate. -/
theorem lastWith_concat_pos {list : List α} {added element : α} (holds : Holds added) :
    LastWith Holds (list ++ [added]) element ↔ element = added := by
  constructor
  · intro last
    obtain ⟨before, after, split, -, none⟩ := last
    -- Anything behind the element would end in the one that was added.
    cases after using List.reverseRecOn with
    | nil =>
      exact (List.cons.inj (List.append_inj_right' split rfl)).1.symm
    | append_singleton after final =>
      rw [← List.cons_append, ← List.append_assoc] at split
      have same := (List.cons.inj (List.append_inj_right' split rfl)).1
      rw [same] at holds
      exact absurd holds (none final (by simp))
  · rintro rfl
    exact ⟨list, [], rfl, holds, by simp⟩

/-- Otherwise it changes nothing. -/
theorem lastWith_concat_neg {list : List α} {added element : α} (fails : ¬ Holds added) :
    LastWith Holds (list ++ [added]) element ↔ LastWith Holds list element := by
  constructor
  · intro last
    obtain ⟨before, after, split, holds, none⟩ := last
    -- The element is not the one added, so what follows it ends in that one.
    cases after using List.reverseRecOn with
    | nil =>
      have same := (List.cons.inj (List.append_inj_right' split rfl)).1
      rw [← same] at holds
      exact absurd holds fails
    | append_singleton after final =>
      rw [← List.cons_append, ← List.append_assoc] at split
      exact ⟨before, after, List.append_inj_left' split rfl, holds,
        fun later member => none later (by simp [member])⟩
  · intro last
    obtain ⟨before, after, rfl, holds, none⟩ := last
    -- The added element joins those behind it, and fails like them.
    refine ⟨before, after ++ [added], by simp, holds, ?_⟩
    intro later member
    rcases List.mem_append.mp member with member | member
    · exact none later member
    · rw [List.mem_singleton.mp member]
      exact fails

/-- The last element with a property is an element with this property. -/
theorem LastWith.mem {list : List α} {element : α} (last : LastWith Holds list element) :
    element ∈ list ∧ Holds element := by
  obtain ⟨before, after, rfl, holds, -⟩ := last
  exact ⟨by simp, holds⟩

end Last

end AmpFc

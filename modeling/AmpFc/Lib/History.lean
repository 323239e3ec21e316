import Mathlib.Tactic

/-! Histories that grow by entries which the entries before them allow. -/

namespace AmpFc

universe u v

variable {Entry : Type u} {Seen : Type v} {allowed weaker : List Entry → Entry → Prop}
  {past between later : List Entry}

/-- A history, the newest entry first, goes on from its past by entries that were allowed. -/
inductive Grows (allowed : List Entry → Entry → Prop) (past : List Entry) : List Entry → Prop
  | still : Grows allowed past past
  | next {later : List Entry} {entry : Entry} :
      Grows allowed past later → allowed later entry → Grows allowed past (entry :: later)

/-- A history may go on by one entry. -/
theorem Grows.single {entry : Entry} (may : allowed past entry) :
    Grows allowed past (entry :: past) :=
  .next .still may

/-- Two stretches of a history make one. -/
theorem Grows.trans (first : Grows allowed past between) (second : Grows allowed between later) :
    Grows allowed past later := by
  induction second with
  | still => exact first
  | next _ may ih => exact .next ih may

/-- A stretch of a history keeps every discipline that asks for less. -/
theorem Grows.mono (grows : Grows allowed past later)
    (less : ∀ past entry, allowed past entry → weaker past entry) : Grows weaker past later := by
  induction grows with
  | still => exact .still
  | next _ may ih => exact .next ih (less _ _ may)

/-- A history forgets nothing. -/
theorem Grows.subset (grows : Grows allowed past later) : past ⊆ later := by
  induction grows with
  | still => exact fun _ among => among
  | next _ _ ih => exact fun entry among => List.mem_cons_of_mem _ (ih among)

/-- What a history held at some moment allowed the entry that came next. -/
theorem Grows.allows {newer : List Entry} {entry : Entry}
    (grows : Grows allowed [] (newer ++ entry :: past)) : allowed past entry := by
  -- The entries that came later are taken off one by one.
  induction newer with
  | nil =>
    cases grows with
    | next _ may => exact may
  | cons _ newer ih =>
    cases grows with
    | next earlier _ => exact ih earlier

/-- A stretch whose entries an observer does not see shows the observer nothing. -/
theorem Grows.unseen {see : Entry → Option Seen} (grows : Grows allowed past later)
    (blind : ∀ past entry, allowed past entry → see entry = none) :
    later.filterMap see = past.filterMap see := by
  induction grows with
  | still => rfl
  | next _ may ih => rw [List.filterMap_cons, blind _ _ may, ih]

/-- An entry of a history that is made of pieces lies in one of them. -/
theorem split_flatMap {Piece : Type v} {pieces : List Piece} {spell : Piece → List Entry}
    {before after : List Entry} {entry : Entry}
    (whole : pieces.flatMap spell = before ++ entry :: after) :
    ∃ first piece rest front back, pieces = first ++ piece :: rest ∧
      before = first.flatMap spell ++ front ∧ spell piece = front ++ entry :: back := by
  -- The induction is on the pieces, of which the first has the entry or comes before it.
  induction pieces generalizing before with
  | nil => simp at whole
  | cons piece pieces ih =>
    rw [List.flatMap_cons] at whole
    rcases List.append_eq_append_iff.mp whole with ⟨front, past, rest⟩ | ⟨back, within, rest⟩
    · obtain ⟨first, other, last, near, far, parts, early, here⟩ := ih rest
      refine ⟨piece :: first, other, last, near, far, ?_, ?_, here⟩
      · rw [parts, List.cons_append]
      · rw [past, early, List.flatMap_cons, List.append_assoc]
    · cases back with
      | nil =>
        -- The first piece ends right before the entry.
        obtain ⟨first, other, last, near, far, parts, early, here⟩ := @ih [] rest.symm
        rw [List.append_nil] at within
        refine ⟨piece :: first, other, last, near, far, ?_, ?_, here⟩
        · rw [parts, List.cons_append]
        · rw [List.flatMap_cons, within, List.append_assoc, ← early, List.append_nil]
      | cons head back =>
        obtain ⟨rfl, -⟩ := List.cons.inj rest
        exact ⟨[], piece, pieces, before, back, rfl, rfl, within⟩

end AmpFc

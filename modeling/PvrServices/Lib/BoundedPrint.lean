import Mathlib.Algebra.Group.Nat.Defs
import Mathlib.Data.List.Basic

/-!
# Texts printed into a buffer

A printer keeps its position in a buffer and the number of characters left in
it.  The number left is a 32-bit word from which the length of every text is
subtracted, whether the text has been stored whole or not.  Before a text is
begun, a reserve has to be left.  A report is kept whole or given up, and a
traversal ends at a heading that is not begun.
-/

namespace BoundedPrint

variable {α : Type}

/-- A position in a buffer, what is left of it and what has been stored.
`wrapped` records that more was subtracted than was left. -/
structure Printer (α : Type) where
  position : Nat
  left : Nat
  contents : Nat → Option α
  wrapped : Bool

/-- A heading ends the traversal if it is not begun.  The texts of a report
count only if all of them are begun. -/
inductive Item (α : Type) where
  | heading (text : List α)
  | report (texts : List (List α))

namespace Printer

/-- Start again at the beginning of the buffer. -/
def restart (printer : Printer α) (capacity : Nat) : Printer α :=
  { printer with position := 0, left := capacity }

/-- Store at most `size` characters of a text with its terminator, and move
on by its length. -/
def print
    (terminator : α) (size : Nat) (text : List α) (printer : Printer α) :
    Printer α where
  position := printer.position + text.length
  left := (printer.left + (2 ^ 32 - text.length % 2 ^ 32)) % 2 ^ 32
  contents := fun address =>
    if address < printer.position ∨ printer.position + size ≤ address ∨
        printer.position + text.length < address then
      printer.contents address
    else if address + 1 = printer.position + size then some terminator
    else some (text.getD (address - printer.position) terminator)
  wrapped := printer.wrapped || printer.left < text.length

section Traversal

variable (terminator : α) (reserve : Nat)

/-- Print texts up to the first that is not begun. -/
def printTexts : List (List α) → Printer α → Printer α × Bool
  | [], printer => (printer, true)
  | text :: rest, printer =>
    if printer.left < reserve then (printer, false)
    else printTexts rest (printer.print terminator reserve text)

/-- Print a report, or give it up. -/
def report (texts : List (List α)) (printer : Printer α) : Printer α :=
  match printer.printTexts terminator reserve texts with
  | (after, true) => after
  | (after, false) =>
    { after with position := printer.position, left := printer.left }

/-- Print items up to the first heading that is not begun. -/
def printItems : List (Item α) → Printer α → Printer α × Bool
  | [], printer => (printer, true)
  | .heading text :: rest, printer =>
    if printer.left < reserve then (printer, false)
    else printItems rest (printer.print terminator reserve text)
  | .report texts :: rest, printer =>
    printItems rest (printer.report terminator reserve texts)

end Traversal

/-- All that is stored lies in the buffer, and nothing has been subtracted
that was not left. -/
structure Inside (capacity : Nat) (printer : Printer α) : Prop where
  stored : ∀ address, printer.contents address ≠ none → address < capacity
  exact : printer.wrapped = false

/-- Position and rest of the buffer are in step. -/
structure InStep (capacity : Nat) (printer : Printer α) : Prop where
  inside : printer.Inside capacity
  word : capacity < 2 ^ 32
  step : printer.position + printer.left = capacity

end Printer

/-! ## Lengths -/

section Lengths

variable (reserve : Nat)

/-- What is left behind the texts of a report, if all of them are begun. -/
def textsLeft : Nat → List (List α) → Option Nat
  | left, [] => some left
  | left, text :: rest =>
    if left < reserve then none else textsLeft (left - text.length) rest

/-- No text of a report that is begun is longer than what is left. -/
def TextsFit : Nat → List (List α) → Prop
  | _, [] => True
  | left, text :: rest =>
    reserve ≤ left →
      text.length ≤ left ∧ TextsFit (left - text.length) rest

/-- What is left behind the items, and whether all headings are begun. -/
def itemsLeft : Nat → List (Item α) → Nat × Bool
  | left, [] => (left, true)
  | left, .heading text :: rest =>
    if left < reserve then (left, false)
    else itemsLeft (left - text.length) rest
  | left, .report texts :: rest =>
    itemsLeft ((textsLeft reserve left texts).getD left) rest

/-- No text that is begun is longer than what is left. -/
def ItemsFit : Nat → List (Item α) → Prop
  | _, [] => True
  | left, .heading text :: rest =>
    reserve ≤ left →
      text.length ≤ left ∧ ItemsFit (left - text.length) rest
  | left, .report texts :: rest =>
    TextsFit reserve left texts ∧
      ItemsFit ((textsLeft reserve left texts).getD left) rest

end Lengths

namespace Printer

variable {terminator : α} {reserve capacity size : Nat}
  {printer : Printer α} {text : List α}

/-! ## What stays -/

/-- What has been stored stays stored, and what has wrapped has wrapped. -/
structure Extends (printer after : Printer α) : Prop where
  stored : ∀ address, printer.contents address ≠ none →
    after.contents address ≠ none
  wrapped : printer.wrapped = true → after.wrapped = true

theorem Extends.refl (printer : Printer α) : printer.Extends printer :=
  ⟨fun _ stored => stored, id⟩

variable {after : Printer α}

theorem Extends.trans
    {middle : Printer α}
    (first : printer.Extends middle)
    (second : middle.Extends after) :
    printer.Extends after where
  stored address stored := second.stored address (first.stored address stored)
  wrapped wrapped := second.wrapped (first.wrapped wrapped)

/-- What is inside in the end has been inside all the time. -/
theorem Inside.of_extends
    (inside : after.Inside capacity)
    (extended : printer.Extends after) :
    printer.Inside capacity where
  stored address stored :=
    inside.stored address (extended.stored address stored)
  exact := by
    cases wrapped : printer.wrapped with
    | false => rfl
    | true => exact (extended.wrapped wrapped).symm.trans inside.exact

theorem extends_print :
    printer.Extends (printer.print terminator size text) where
  stored address stored := by
    simp only [print]
    split
    · exact stored
    · split <;> exact Option.some_ne_none _
  wrapped wrapped := by rw [print, wrapped, Bool.true_or]

variable (texts : List (List α))

theorem extends_printTexts :
    printer.Extends (printer.printTexts terminator reserve texts).1 := by
  induction texts generalizing printer with
  | nil => exact .refl printer
  | cons text rest ih =>
    rw [printTexts]
    split
    · exact .refl printer
    · exact extends_print.trans ih

theorem extends_report :
    printer.Extends (printer.report terminator reserve texts) := by
  have extended := @extends_printTexts α terminator reserve printer texts
  unfold report
  rcases printed : printer.printTexts terminator reserve texts with
    ⟨after, done⟩
  rw [printed] at extended
  cases done with
  | true => exact extended
  | false => exact ⟨extended.stored, extended.wrapped⟩

theorem extends_printItems
    (items : List (Item α)) :
    printer.Extends (printer.printItems terminator reserve items).1 := by
  induction items generalizing printer with
  | nil => exact .refl printer
  | cons item rest ih =>
    cases item with
    | heading text =>
      rw [printItems]
      split
      · exact .refl printer
      · exact extends_print.trans ih
    | report texts =>
      rw [printItems]
      exact (extends_report texts).trans ih

/-! ## One text -/

/-- A text that is longer than what is left makes it wrap. -/
theorem print_wraps
    (longer : printer.left < text.length) :
    (printer.print terminator size text).wrapped = true := by
  rw [print, decide_eq_true longer, Bool.or_true]

/-- What a text stores lies behind the position, within the size and the
length of the text. -/
theorem print_stored
    {address : Nat}
    (stored : (printer.print terminator size text).contents address ≠ none) :
    printer.contents address ≠ none ∨
      address < printer.position + size ∧
        address ≤ printer.position + text.length := by
  simp only [print] at stored
  split at stored
  · exact .inl stored
  · next within =>
      rw [not_or, not_or, Nat.not_lt, Nat.not_le, Nat.not_lt] at within
      exact .inr within.2

/-- A text whose stored part and whose length fit keeps printer and buffer in
step. -/
theorem InStep.print
    (inStep : printer.InStep capacity)
    (room : size ≤ printer.left ∨ text.length < printer.left)
    (fits : text.length ≤ printer.left) :
    (printer.print terminator size text).InStep capacity ∧
      (printer.print terminator size text).left =
        printer.left - text.length := by
  have step := inStep.step
  have word := inStep.word
  have left : (printer.print terminator size text).left =
      printer.left - text.length := by
    simp only [Printer.print]
    omega
  refine ⟨⟨⟨fun address stored => ?_, ?_⟩, word, ?_⟩, left⟩
  · rcases print_stored stored with before | within
    · exact inStep.inside.stored address before
    · omega
  · rw [Printer.print, inStep.inside.exact, Bool.false_or,
      decide_eq_false_iff_not]
    exact Nat.not_lt.mpr fits
  · rw [left]
    simp only [Printer.print]
    omega

/-! ## Reports -/

theorem report_wrapped_eq :
    (printer.report terminator reserve texts).wrapped =
      (printer.printTexts terminator reserve texts).1.wrapped := by
  unfold report
  rcases printer.printTexts terminator reserve texts with ⟨after, done⟩
  cases done <;> rfl

variable {texts : List (List α)}

/-- Texts that fit keep printer and buffer in step, up to the first that is
not begun. -/
theorem InStep.printTexts
    (inStep : printer.InStep capacity)
    (fits : TextsFit reserve printer.left texts) :
    ∃ after done,
      printer.printTexts terminator reserve texts = (after, done) ∧
        after.InStep capacity ∧
        textsLeft reserve printer.left texts =
          if done then some after.left else none := by
  induction texts generalizing printer with
  | nil => exact ⟨printer, true, rfl, inStep, rfl⟩
  | cons text rest ih =>
    by_cases short : printer.left < reserve
    · refine ⟨printer, false, ?_, inStep, ?_⟩
      · rw [Printer.printTexts, if_pos short]
      · rw [textsLeft, if_pos short]
        rfl
    · obtain ⟨fitsText, fitsRest⟩ := fits (Nat.not_lt.mp short)
      obtain ⟨next, left⟩ :=
        @InStep.print α terminator capacity reserve printer text inStep
          (.inl (Nat.not_lt.mp short)) fitsText
      rw [← left] at fitsRest
      obtain ⟨after, done, prints, inStepAfter, ends⟩ := ih next fitsRest
      refine ⟨after, done, ?_, inStepAfter, ?_⟩
      · rw [Printer.printTexts, if_neg short, prints]
      · rw [textsLeft, if_neg short, ← left, ends]

/-- Texts that do not fit make what is left wrap. -/
theorem InStep.printTexts_wraps
    (inStep : printer.InStep capacity)
    (misfits : ¬ TextsFit reserve printer.left texts) :
    (printer.printTexts terminator reserve texts).1.wrapped = true := by
  induction texts generalizing printer with
  | nil => exact absurd trivial misfits
  | cons text rest ih =>
    rw [TextsFit, Classical.not_imp] at misfits
    obtain ⟨begun, misfits⟩ := misfits
    rw [Printer.printTexts, if_neg (Nat.not_lt.mpr begun)]
    by_cases fitsText : text.length ≤ printer.left
    · obtain ⟨next, left⟩ :=
        @InStep.print α terminator capacity reserve printer text inStep
          (.inl begun) fitsText
      refine ih next fun fitsRest => misfits ?_
      rw [left] at fitsRest
      exact ⟨fitsText, fitsRest⟩
    · exact (extends_printTexts rest).wrapped
        (print_wraps (Nat.not_le.mp fitsText))

theorem InStep.report
    (inStep : printer.InStep capacity)
    (fits : TextsFit reserve printer.left texts) :
    (printer.report terminator reserve texts).InStep capacity ∧
      (printer.report terminator reserve texts).left =
        (textsLeft reserve printer.left texts).getD printer.left := by
  obtain ⟨after, done, prints, next, ends⟩ :=
    @InStep.printTexts α terminator reserve capacity printer texts inStep fits
  rw [Printer.report, prints, ends]
  cases done with
  | true => exact ⟨next, rfl⟩
  | false => exact ⟨⟨⟨next.inside.stored, next.inside.exact⟩, next.word,
      inStep.step⟩, rfl⟩

/-! ## Traversals -/

theorem printItems_append
    (first second : List (Item α)) :
    printer.printItems terminator reserve (first ++ second) =
      match printer.printItems terminator reserve first with
      | (after, true) => after.printItems terminator reserve second
      | (after, false) => (after, false) := by
  induction first generalizing printer with
  | nil => rfl
  | cons item rest ih =>
    cases item with
    | heading text =>
      rw [List.cons_append, printItems, printItems]
      split
      · rfl
      · exact ih
    | report texts =>
      rw [List.cons_append, printItems, printItems]
      exact ih

variable {items : List (Item α)} (inStep : printer.InStep capacity)
include inStep

/-- Items that fit keep printer and buffer in step, up to the first heading
that is not begun. -/
theorem InStep.printItems
    (fits : ItemsFit reserve printer.left items) :
    ∃ after,
      printer.printItems terminator reserve items =
          (after, (itemsLeft reserve printer.left items).2) ∧
        after.InStep capacity ∧
        after.left = (itemsLeft reserve printer.left items).1 := by
  induction items generalizing printer with
  | nil => exact ⟨printer, rfl, inStep, rfl⟩
  | cons item rest ih =>
    cases item with
    | heading text =>
      rw [Printer.printItems, itemsLeft]
      by_cases short : printer.left < reserve
      · rw [if_pos short, if_pos short]
        exact ⟨printer, rfl, inStep, rfl⟩
      · rw [if_neg short, if_neg short]
        obtain ⟨fitsText, fitsRest⟩ := fits (Nat.not_lt.mp short)
        obtain ⟨next, left⟩ :=
          @InStep.print α terminator capacity reserve printer text inStep
            (.inl (Nat.not_lt.mp short)) fitsText
        rw [← left] at fitsRest ⊢
        exact ih next fitsRest
    | report texts =>
      obtain ⟨next, left⟩ :=
        @InStep.report α terminator reserve capacity printer texts inStep
          fits.1
      rw [Printer.printItems, itemsLeft, ← left]
      refine ih next ?_
      rw [left]
      exact fits.2

/-- Items that do not fit make what is left wrap. -/
theorem InStep.printItems_wraps
    (misfits : ¬ ItemsFit reserve printer.left items) :
    (printer.printItems terminator reserve items).1.wrapped = true := by
  induction items generalizing printer with
  | nil => exact absurd trivial misfits
  | cons item rest ih =>
    cases item with
    | heading text =>
      rw [ItemsFit, Classical.not_imp] at misfits
      obtain ⟨begun, misfits⟩ := misfits
      rw [Printer.printItems, if_neg (Nat.not_lt.mpr begun)]
      by_cases fitsText : text.length ≤ printer.left
      · obtain ⟨next, left⟩ :=
          @InStep.print α terminator capacity reserve printer text inStep
            (.inl begun) fitsText
        refine ih next fun fitsRest => misfits ?_
        rw [left] at fitsRest
        exact ⟨fitsText, fitsRest⟩
      · exact (extends_printItems rest).wrapped
          (print_wraps (Nat.not_le.mp fitsText))
    | report texts =>
      rw [Printer.printItems]
      by_cases fitsTexts : TextsFit reserve printer.left texts
      · obtain ⟨next, left⟩ :=
          @InStep.report α terminator reserve capacity printer texts
            inStep fitsTexts
        refine ih next fun fitsRest => misfits ?_
        rw [left] at fitsRest
        exact ⟨fitsTexts, fitsRest⟩
      · refine (extends_printItems rest).wrapped ?_
        rw [report_wrapped_eq]
        exact inStep.printTexts_wraps fitsTexts

end Printer

end BoundedPrint

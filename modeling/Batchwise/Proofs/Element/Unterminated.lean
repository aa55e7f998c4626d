import Batchwise.Proofs.Element.Tokenization

namespace Batchwise

/-! A scan of any script, also of one that has no end it could read to. It gives the
elements in front of the first comment or literal that never closes, and that region
takes all that is left of the script. -/

/-- A comment or literal starts here, and yet no element stands here. -/
structure NeverCloses (kind : ElementKind) (script : List Char) : Prop where
  starts : Starts kind script
  noElement : ∀ (element : Element) (rest : List Char),
    script = element.text ++ rest → element.text ≠ [] → ¬ element.Fits rest

/-- The script falls into these elements, each at its place, and behind them there is
nothing or a region that never closes. -/
inductive Scans :
    List Char → Position → List Element → Option Unterminated → Prop
  | finished (position : Position) : Scans [] position [] none
  | stuck {kind : ElementKind} {script : List Char} (position : Position)
      (neverCloses : NeverCloses kind script) :
      Scans script position [] (some ⟨kind, position⟩)
  | read {element : Element} {rest : List Char} {elements : List Element}
      {unterminated : Option Unterminated} (nonempty : element.text ≠ [])
      (fits : element.Fits rest)
      (behind : Scans rest (element.position.after element.text) elements unterminated) :
      Scans (element.text ++ rest) element.position (element :: elements) unterminated

namespace Cursor

theorem unterminated_of_close {cursor following : Cursor} {kind : ElementKind}
    {opening : List Char} {body : Option (List Char × List Char)} {region : Unterminated}
    (closed : cursor.close kind opening body = (.unterminated region, following)) :
    region = ⟨kind, cursor.position⟩ := by
  cases body with
  | none =>
      cases closed
      rfl
  | some split => cases closed

theorem neverCloses_of_next {cursor following : Cursor} {region : Unterminated}
    (stuck : cursor.next = (.unterminated region, following)) :
    region.position = cursor.position ∧ NeverCloses region.kind cursor.rest := by
  have noElement : ∀ (element : Element) (rest : List Char),
      cursor.rest = element.text ++ rest → element.text ≠ [] → ¬ element.Fits rest := by
    intro element rest split nonempty fits
    have read : cursor.next = (.element { element with position := cursor.position },
        cursor.advance element.text rest) := next_of_fits split nonempty rfl fits
    rw [stuck] at read
    cases read
  rcases cursor with ⟨script, position⟩
  by_cases plain : ∀ kind, ¬ Starts kind script
  · rcases eq_or_ne script [] with rfl | nonempty
    · cases stuck
    · rw [next_eq_of_plain nonempty plain] at stuck
      cases stuck
  · rcases not_forall_not.mp plain with ⟨kind, starts⟩
    have own : region = ⟨kind, position⟩ := by
      cases starts with
      | literal quote behind =>
          rw [next_literal] at stuck
          exact unterminated_of_close stuck
      | lineComment behind =>
          rw [next_lineComment] at stuck
          exact unterminated_of_close stuck
      | blockComment behind =>
          rw [next_blockComment] at stuck
          exact unterminated_of_close stuck
    rw [own]
    exact ⟨rfl, starts, noElement⟩

theorem scans_elements (cursor : Cursor) :
    Scans cursor.rest cursor.position cursor.elements.elements
      cursor.elements.unterminated := by
  fun_induction Cursor.elements cursor with
  | case1 cursor atEnd =>
      rw [atEnd]
      exact .finished _
  | case2 cursor more finished => exact absurd (next_finished_iff.mp finished) more
  | case3 cursor more region found =>
      rcases neverCloses_of_next (Prod.ext found rfl) with ⟨position, neverCloses⟩
      rw [← position]
      exact .stuck _ neverCloses
  | case4 cursor more element found following induction =>
      have whole : cursor.next = (.element element, cursor.next.2) := Prod.ext found rfl
      rcases fits_of_next whole with ⟨rest, advanced, split, nonempty, position, fits⟩
      have behind : cursor.next.2.position = element.position.after element.text := by
        rw [advanced, position]
        rfl
      have left : cursor.next.2.rest = rest := congrArg Cursor.rest advanced
      rw [behind, left] at induction
      rw [split, ← position]
      exact .read nonempty fits induction

end Cursor

namespace Scans

variable {script : List Char} {start : Position} {elements : List Element}
  {unterminated : Option Unterminated}

theorem length_le (scans : Scans script start elements unterminated) :
    elements.length + unterminated.toList.length ≤ script.length := by
  induction scans with
  | finished => exact Nat.le_refl _
  | stuck _ neverCloses =>
      cases neverCloses.starts <;> simp
  | read nonempty fits behind induction =>
      have positive := List.length_pos_iff.mpr nonempty
      simp only [List.length_cons, List.length_append]
      omega

def Follows (kind : ElementKind) (rest : List Element) (unterminated : Option Unterminated) :
    Prop :=
  (∃ following behind, rest = following :: behind ∧ following.kind = kind) ∨
    rest = [] ∧ ∃ region, unterminated = some region ∧ region.kind = kind

theorem follows_of_starts (scans : Scans script start elements unterminated)
    {kind : ElementKind} (starts : Starts kind script) :
    Follows kind elements unterminated := by
  cases scans with
  | finished => cases starts
  | stuck _ neverCloses =>
      exact .inr ⟨rfl, _, rfl, neverCloses.starts.unique starts⟩
  | read nonempty fits behind => exact .inl ⟨_, _, rfl, fits.kind_eq nonempty starts⟩

theorem follows_of_ending (scans : Scans script start elements unterminated)
    {before rest : List Element} {element : Element} {kind : ElementKind}
    (split : elements = before ++ element :: rest) (ends : element.ending = .before kind) :
    Follows kind rest unterminated := by
  induction scans generalizing before with
  | finished | stuck => simp at split
  | read nonempty fits behind induction =>
      cases before with
      | nil =>
          cases split
          exact behind.follows_of_starts (fits.starts ends)
      | cons first before => exact induction (List.cons.inj split).2

end Scans

end Batchwise

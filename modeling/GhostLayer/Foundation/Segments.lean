import Mathlib.Data.List.Infix

/-! # Texts made of segments

Segments are written one behind the other, each of them behind a separator that
none of them has. What stands behind a separator of the text is then the
beginning of a segment.
-/

namespace Foundation

namespace Segments

variable {α : Type*} {separator : α} {segments : List (List α)} {part : List α}

/-- Segments, each behind a separator. -/
def joined (separator : α) (segments : List (List α)) : List α :=
  segments.flatMap (separator :: ·)

@[simp]
theorem joined_nil : joined separator [] = [] := rfl

@[simp]
theorem joined_cons (segment : List α) (segments : List (List α)) :
    joined separator (segment :: segments) =
      separator :: (segment ++ joined separator segments) := rfl

@[simp]
theorem joined_append (first second : List (List α)) :
    joined separator (first ++ second) = joined separator first ++ joined separator second :=
  List.flatMap_append

theorem head_joined {letter : α} {text : List α}
    (htext : joined separator segments = letter :: text) : letter = separator := by
  cases segments with
  | nil => cases htext
  | cons segment segments => exact (List.cons.inj htext).1.symm

/-- A separator of the text stands in front of a segment. -/
theorem exists_segment {before after : List α}
    (hsegments : ∀ segment ∈ segments, separator ∉ segment)
    (htext : joined separator segments = before ++ separator :: after) :
    ∃ segment ∈ segments, ∃ rest, after = segment ++ joined separator rest := by
  induction segments generalizing before with
  | nil => cases before <;> cases htext
  | cons segment segments inductionHypothesis =>
      have hlater (before : List α)
          (htext : joined separator segments = before ++ separator :: after) :
          ∃ other ∈ segment :: segments, ∃ rest, after = other ++ joined separator rest := by
        obtain ⟨other, hother, hafter⟩ := inductionHypothesis
          (fun other hother => hsegments other (List.mem_cons_of_mem _ hother)) htext
        exact ⟨other, List.mem_cons_of_mem _ hother, hafter⟩
      rw [joined_cons] at htext
      cases before with
      | nil => exact ⟨segment, List.mem_cons_self, segments, (List.cons.inj htext).2.symm⟩
      | cons _ before =>
          rcases List.append_eq_append_iff.mp (List.cons.inj htext).2 with
            ⟨between, -, hrest⟩ | ⟨between, hsegment, hrest⟩
          · exact hlater between hrest
          · cases between with
            | nil => exact hlater [] hrest.symm
            | cons other between =>
                -- The separator would be a letter of the segment.
                obtain rfl := (List.cons.inj hrest).1
                exact absurd (by simp [hsegment]) (hsegments segment List.mem_cons_self)

/-- What is found behind a separator begins a segment. -/
theorem exists_begins (hsegments : ∀ segment ∈ segments, separator ∉ segment)
    (hpart : separator ∉ part) (hfound : separator :: part <:+: joined separator segments) :
    ∃ segment ∈ segments, part <+: segment := by
  obtain ⟨before, after, htext⟩ := hfound
  have hbehind : joined separator segments = before ++ separator :: (part ++ after) := by
    simp [← htext]
  obtain ⟨segment, hsegment, rest, hafter⟩ := exists_segment hsegments hbehind
  refine ⟨segment, hsegment, ?_⟩
  rcases List.append_eq_append_iff.mp hafter with ⟨between, hbegins, -⟩ | ⟨between, hends, hrest⟩
  · exact ⟨between, hbegins.symm⟩
  · cases between with
    | nil => exact ⟨[], by simpa using hends⟩
    | cons other between =>
        obtain rfl := head_joined hrest
        exact absurd (by simp [hends]) hpart

/-- What is found between two separators is a segment. -/
theorem mem_of_infix (hsegments : ∀ segment ∈ segments, separator ∉ segment)
    (hpart : separator ∉ part)
    (hfound : separator :: (part ++ [separator]) <:+: joined separator segments) :
    part ∈ segments := by
  obtain ⟨before, after, htext⟩ := hfound
  have hbehind : joined separator segments = before ++ separator ::
    (part ++ separator :: after) := by
    simp [← htext]
  obtain ⟨segment, hsegment, rest, hafter⟩ := exists_segment hsegments hbehind
  suffices hsame : part = segment by rwa [hsame]
  have hclean := hsegments segment hsegment
  rcases List.append_eq_append_iff.mp hafter with ⟨between, hbegins, hrest⟩
    | ⟨between, hends, hrest⟩
  · cases between with
    | nil => simpa using hbegins.symm
    | cons other between =>
        obtain rfl := (List.cons.inj hrest).1
        exact absurd (by simp [hbegins]) hclean
  · cases between with
    | nil => simpa using hends
    | cons other between =>
        obtain rfl := head_joined hrest
        exact absurd (by simp [hends]) hpart

/-- Segments are found in the text, with the separator of the next one. -/
theorem infix_joined (before middle after : List (List α)) (next : List α) :
    joined separator middle ++ [separator] <:+:
      joined separator (before ++ middle ++ next :: after) := by
  refine ⟨joined separator before, next ++ joined separator after, ?_⟩
  simp

/-- The letters of items written with a text between them. -/
theorem forall_mem_intercalate {p : α → Prop} {between : List α} {items : List (List α)}
    (hbetween : ∀ letter ∈ between, p letter) (hitems : ∀ item ∈ items, ∀ letter ∈ item, p letter) :
    ∀ letter ∈ between.intercalate items, p letter := by
  induction items with
  | nil => simp
  | cons item items inductionHypothesis =>
      have hrest := inductionHypothesis fun other hother =>
        hitems other (List.mem_cons_of_mem _ hother)
      have hitem := hitems item List.mem_cons_self
      cases items with
      | nil => simpa using hitem
      | cons next items =>
          intro letter hletter
          rw [List.intercalate_cons_cons, List.append_assoc, List.mem_append,
            List.mem_append] at hletter
          rcases hletter with hletter | hletter | hletter
          · exact hitem letter hletter
          · exact hbetween letter hletter
          · exact hrest letter hletter

end Segments

end Foundation

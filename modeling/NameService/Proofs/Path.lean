import Mathlib.Data.List.Induction
import NameService.Path
import NameService.Proofs.Text.Split
import NameService.Proofs.Text.Trim

/-!
# Paths of names

Names with slashes between them are the path of those that are not blank: the
path leads over every name that can be a component, and steps over the others.
So paths joined by a slash have the components of both, and lists of names that
can be components are the same as paths, up to the slashes and blank segments
that do not count.
-/

namespace NameService
namespace Path

/-- A name that can be a component: something is left of it when it is trimmed,
and no separator stands in it. -/
structure Clean (name : String) : Prop where
  notBlank : Text.trim name.toList ≠ []
  whole : separator ∉ name.toList

/-- Names with a separator between them. -/
def joined (names : List String) : String := "/".intercalate names

@[simp] theorem joined_nil : joined [] = "" := rfl

@[simp] theorem joined_singleton (name : String) : joined [name] = name := rfl

theorem joined_cons_cons (first second : String) (rest : List String) :
    joined (first :: second :: rest) =
      first ++ "/" ++ joined (second :: rest) :=
  String.intercalate_cons_cons

variable {path name : String} {names : List String}

/-! ## Components -/

/-- The components on both sides of a separator stand side by side. -/
theorem components_append (front back : String) :
    components (front ++ "/" ++ back) =
      components front ++ components back := by
  have chars : (front ++ "/" ++ back).toList =
      front.toList ++ separator :: back.toList := by
    simp [separator]
  have pieces :
      Text.split (· == separator) (front.toList ++ separator :: back.toList) =
      Text.split (· == separator) front.toList ++
        Text.split (· == separator) back.toList :=
    Text.split_append front.toList (by simp) back.toList
  rw [components, segments, chars, pieces, List.filter_append, List.map_append]
  rfl

/-- A name without separators is a component of itself, unless it is blank. -/
theorem components_of_whole (whole : separator ∉ name.toList) :
    components name = [name].filter fun name => !Text.allBlank name.toList := by
  have uncut : ∀ c ∈ name.toList, (c == separator) = false :=
    fun c present => beq_false_of_ne fun same => whole (same ▸ present)
  rw [components, segments, Text.split_of_whole uncut]
  by_cases blank : Text.allBlank name.toList <;> simp [blank]

/-- The path of names without separators has those as components that are not
blank. -/
theorem components_joined (whole : ∀ name ∈ names, separator ∉ name.toList) :
    components (joined names) = names.filter fun name =>
      !Text.allBlank name.toList := by
  induction names with
  | nil => rfl
  | cons first rest hypothesis =>
      obtain ⟨own, others⟩ := List.forall_mem_cons.mp whole
      cases rest with
      | nil => exact components_of_whole own
      | cons second rest =>
          rw [joined_cons_cons, components_append, components_of_whole own,
            hypothesis others, ← List.filter_append]
          rfl

/-- No component of a path is blank. -/
theorem not_blank_of_mem_components (present : name ∈ components path) :
    Text.allBlank name.toList = false := by
  obtain ⟨segment, isSegment, rfl⟩ := List.mem_map.mp present
  simpa using (List.mem_filter.mp isSegment).2

/-- Every component of a path is a name that can be one. -/
theorem clean_of_mem_components (present : name ∈ components path) :
    Clean name := by
  refine ⟨fun blank => ?_, fun inName => ?_⟩
  · rw [Text.trim_eq_nil_iff, not_blank_of_mem_components present] at blank
    cases blank
  · obtain ⟨segment, isSegment, rfl⟩ := List.mem_map.mp present
    rw [String.toList_ofList] at inName
    have notCut :=
      Text.cut_eq_false_of_mem_split (List.mem_filter.mp isSegment).1 inName
    simp at notCut

/-- The path of names that can be components has them as components. -/
theorem components_joined_of_clean (clean : ∀ name ∈ names, Clean name) :
    components (joined names) = names := by
  rw [components_joined fun name present => (clean name present).whole,
    List.filter_eq_self]
  intro name present
  have notBlank := mt Text.trim_eq_nil_iff.mpr (clean name present).notBlank
  rw [Bool.not_eq_true] at notBlank
  rw [notBlank]
  rfl

/-! ## Parents -/

theorem splitLast?_eq_none_iff {items : List α} :
    splitLast? items = none ↔ items = [] := by
  induction items using List.reverseRecOn with
  | nil => simp
  | append_singleton front last _ => simp [splitLast?_append_singleton]

/-- Splitting is a homomorphism from paths to lists of names that can be
components, and paths of such names are split into them: components are those of
both sides of a separator, and can be components, and the path of names that can
be components has them again, with the last one as the name of its entry and
those in front of it as the parents. -/
theorem components_homomorphic :
    (∀ front back : String,
      components (front ++ "/" ++ back) = components front ++ components back) ∧
    (∀ path, ∀ name ∈ components path, Clean name) ∧
    ∀ names : List String, (∀ name ∈ names, Clean name) →
      components (joined names) = names ∧
      (splitParent? (joined names) = none ↔ names = []) ∧
      ∀ front last, names = front ++ [last] →
      splitParent? (joined names) = some (front, last) := by
  refine ⟨components_append, fun path name => clean_of_mem_components,
    fun names clean => ?_⟩
  have same := components_joined_of_clean clean
  rw [splitParent?, same]
  refine ⟨rfl, splitLast?_eq_none_iff, ?_⟩
  rintro front last rfl
  exact splitLast?_append_singleton front last

/-- Names with blank ends, and one with a character that only looks blank. -/
theorem components_homomorphic_odd :
    (∀ name ∈ [" a", "\u200b", "b\u3000"], Clean name) ∧
      components " a/\u200b/b\u3000" = [" a", "\u200b", "b\u3000"] ∧
      splitParent? " a/\u200b/b\u3000" =
        some ([" a", "\u200b"], "b\u3000") := by
  have clean : ∀ name ∈ [" a", "\u200b", "b\u3000"], Clean name := by
    intro name present
    simp only [List.mem_cons, List.not_mem_nil, or_false] at present
    rcases present with rfl | rfl | rfl <;> exact ⟨by decide, by decide⟩
  obtain ⟨same, -, parent⟩ := components_homomorphic.2.2 _ clean
  exact ⟨clean, same, parent [" a", "\u200b"] "b\u3000" rfl⟩

end Path
end NameService

import BitProtector.SymlinkSync
import BitProtector.VirtualNormalForms

/-! Overlap of normalised virtual paths as a relation on their components. -/
namespace BitProtector.PathOverlaps
open VirtualPath VirtualAssignment VirtualNormalForms SymlinkSync

theorem normalized_components {given path : String} (ok : normalizeVirtualPath given = .ok path) :
    ∃ segments, normalizeSegments given ((trim given.toList).splitOn '/') = .ok segments ∧ segments ≠ [] ∧
      (∀ segment ∈ segments, Plain segment) ∧ path = String.ofList (joinSegments segments) ∧
      componentsOf path = segments := by
  obtain ⟨segments,parsed,nonempty,rfl⟩ := normalizeVirtualPath_ok ok
  have plain := plain_of_normalizeSegments parsed fun part member => no_slash_of_mem_splitOn member
  exact ⟨segments,parsed,nonempty,plain,rfl,componentsOf_joinSegments nonempty plain⟩

theorem pathsOverlap_iff {left right : String} :
    pathsOverlap left right = true ↔
      left = right ∨ right.toList ++ ['/'] <+: left.toList ∨ left.toList ++ ['/'] <+: right.toList := by
  simp only [pathsOverlap,Bool.or_eq_true,beq_iff_eq,List.isPrefixOf_iff_prefix,or_assoc]

theorem pathsOverlap_comm (left right : String) : pathsOverlap left right = pathsOverlap right left := by
  rw [Bool.eq_iff_iff,pathsOverlap_iff,pathsOverlap_iff,eq_comm]
  exact or_congr_right or_comm

theorem joined_prefix_iff {segments others : List (List Char)} (nonempty : segments ≠ [])
    (plain : ∀ segment ∈ segments, Plain segment) (othersNonempty : others ≠ [])
    (othersPlain : ∀ segment ∈ others, Plain segment) :
    joinSegments segments = joinSegments others ∨ joinSegments segments ++ ['/'] <+: joinSegments others ↔
      segments <+: others := by
  constructor
  · rintro (same | continued)
    · have split := congrArg (List.splitOn '/') same
      rw [splitOn_joinSegments nonempty plain,splitOn_joinSegments othersNonempty othersPlain,List.cons.injEq] at split
      rw [split.2]
    · exact prefix_of_joinSegments nonempty plain othersNonempty othersPlain continued
  · exact joinSegments_prefix nonempty

theorem pathsOverlap_continued {left tail : String} (continued : tail ≠ "") (inside : tail.toList.head? ≠ some '/') :
    pathsOverlap left (left ++ tail) = false := by
  rw [Bool.eq_false_iff]
  intro overlap
  obtain ⟨c,cs,text⟩ := List.exists_cons_of_ne_nil (mt String.toList_eq_nil_iff.mp continued)
  rw [pathsOverlap_iff,String.toList_append,text] at overlap
  rw [text] at inside
  rcases overlap with same | above | below
  · have lengths := congrArg (fun path => path.toList.length) same
    simp only [String.toList_append,text,List.length_append,List.length_cons] at lengths
    omega
  · have lengths := above.length_le
    simp only [List.length_append,List.length_cons] at lengths
    omega
  · rw [List.prefix_append_right_inj,List.cons_prefix_cons] at below
    exact inside (congrArg some below.1.symm)

/-- Two normalised paths overlap if and only if the components of one begin with the components of the other. So a path
overlaps itself, overlap goes both ways, and names of which one only continues the other's text stay apart. -/
theorem pathsOverlap_components {given other left right : String} (leftOk : normalizeVirtualPath given = .ok left)
    (rightOk : normalizeVirtualPath other = .ok right) :
    (pathsOverlap left right = true ↔
        componentsOf left <+: componentsOf right ∨ componentsOf right <+: componentsOf left) ∧
      pathsOverlap left right = pathsOverlap right left ∧ pathsOverlap left left = true ∧
      (∀ front name rest another more, componentsOf left = front ++ name::rest →
        componentsOf right = front ++ another::more → name ≠ another → pathsOverlap left right = false) ∧
      ∀ tail, right = left ++ tail → tail ≠ "" → tail.toList.head? ≠ some '/' → pathsOverlap left right = false := by
  obtain ⟨segments,_,nonempty,plain,leftText,leftSegments⟩ := normalized_components leftOk
  obtain ⟨others,_,othersNonempty,othersPlain,rightText,rightSegments⟩ := normalized_components rightOk
  have decides : pathsOverlap left right = true ↔ segments <+: others ∨ others <+: segments := by
    rw [← joined_prefix_iff nonempty plain othersNonempty othersPlain,
      ← joined_prefix_iff othersNonempty othersPlain nonempty plain,pathsOverlap_iff,leftText,rightText,
      String.toList_ofList,String.toList_ofList,String.ofList_inj,eq_comm (a := joinSegments others)]
    tauto
  rw [leftSegments,rightSegments]
  refine ⟨decides,pathsOverlap_comm left right,pathsOverlap_self left,?_,?_⟩
  · intro front name rest another more here there apart
    rw [Bool.eq_false_iff,ne_eq,decides,here,there,List.prefix_append_right_inj,List.prefix_append_right_inj,
      List.cons_prefix_cons,List.cons_prefix_cons]
    rintro (below | below)
    · exact apart below.1
    · exact apart below.1.symm
  · rintro tail rfl continued inside
    exact pathsOverlap_continued continued inside

theorem pathsOverlap_components_docs :
    (pathsOverlap "/a/doc" "/a/docs" = true ↔
        componentsOf "/a/doc" <+: componentsOf "/a/docs" ∨ componentsOf "/a/docs" <+: componentsOf "/a/doc") ∧
      pathsOverlap "/a/doc" "/a/docs" = false := by
  have leftOk : normalizeVirtualPath " /a//doc/" = .ok "/a/doc" := by decide +kernel
  have rightOk : normalizeVirtualPath "/a/./docs" = .ok "/a/docs" := by decide +kernel
  obtain ⟨decides,_,_,_,continued⟩ := pathsOverlap_components leftOk rightOk
  exact ⟨decides,continued "s" rfl (by decide) (by decide)⟩

end BitProtector.PathOverlaps

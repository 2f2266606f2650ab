import Mathlib.Data.List.TakeWhile
import Typings.Tree.Outline

/-!
# Names with dots

A name with a dot is the name that it lies in, a dot and a simple name. The names that contain it
are those in front of any of its dots.

* `parent?_eq_some_iff`: the name before the last dot;
* `mem_enclosing_iff`: the names before the dots of a name;
* `coveredBy_iff`: a name is covered by an entry when it is the entry or is contained in it.
-/

namespace Typings

/-! ## The last occurrence of a character -/

namespace Text

variable {mark : Char} {text front back : List Char}

theorem bne_of_mem_reverse (hnot : mark ∉ text) : ∀ c ∈ text.reverse, (c != mark) = true := by
  intro c hc
  exact bne_iff_ne.2 fun heq => hnot (heq ▸ List.mem_reverse.1 hc)

theorem afterLast_append (hback : mark ∉ back) : afterLast mark (front ++ mark :: back) = back := by
  simp [afterLast, List.takeWhile_append_of_pos (bne_of_mem_reverse hback)]

theorem beforeLast_append (hback : mark ∉ back) :
    beforeLast mark (front ++ mark :: back) = front := by
  simp [beforeLast, List.dropWhile_append_of_pos (bne_of_mem_reverse hback)]

theorem afterLast_of_not_mem (hnot : mark ∉ text) : afterLast mark text = text := by
  rw [afterLast, List.takeWhile_eq_self_iff.2 (bne_of_mem_reverse hnot), List.reverse_reverse]

/-- A text that has a mark is cut at the last one. -/
theorem exists_last (hmem : mark ∈ text) :
    ∃ front back, text = front ++ mark :: back ∧ mark ∉ back := by
  obtain ⟨back, front, hreverse, hback⟩ :=
    List.eq_append_cons_of_mem (List.mem_reverse.2 hmem)
  refine ⟨front.reverse, back.reverse, ?_, fun hc => hback (List.mem_reverse.1 hc)⟩
  have htext := congrArg List.reverse hreverse
  simpa using htext

end Text

namespace QualifiedName

variable {name outer parent last rest entry : String}

/-! ## The name that a name lies in -/

theorem toList_qualified (parent last : String) :
    (parent ++ "." ++ last).toList = parent.toList ++ '.' :: last.toList := by
  simp

theorem parent?_qualified (hlast : '.' ∉ last.toList) :
    parent? (parent ++ "." ++ last) = some parent := by
  rw [parent?, toList_qualified, Text.beforeLast_append hlast, String.ofList_toList]
  exact if_pos (by simp)

theorem simple_qualified (hlast : '.' ∉ last.toList) : simple (parent ++ "." ++ last) = last := by
  rw [simple, toList_qualified, Text.afterLast_append hlast, String.ofList_toList]

theorem parent?_eq_none_iff : parent? name = none ↔ '.' ∉ name.toList := by
  simp [parent?]

theorem simple_of_no_dot (hplain : '.' ∉ name.toList) : simple name = name := by
  rw [simple, Text.afterLast_of_not_mem hplain, String.ofList_toList]

/-- The name that a name lies in is what stands before its last dot. -/
theorem parent?_eq_some_iff :
    parent? name = some parent ↔ ∃ last, '.' ∉ last.toList ∧ name = parent ++ "." ++ last := by
  constructor
  · intro hparent
    have hdot : '.' ∈ name.toList := by
      refine Decidable.byContradiction fun hplain => ?_
      rw [parent?_eq_none_iff.2 hplain] at hparent
      cases hparent
    obtain ⟨front, back, htext, hback⟩ := Text.exists_last hdot
    have hlast : '.' ∉ (String.ofList back).toList := by rwa [String.toList_ofList]
    have hname : name = String.ofList front ++ "." ++ String.ofList back := by
      refine String.toList_injective ?_
      rw [toList_qualified, String.toList_ofList, String.toList_ofList, htext]
    rw [hname, parent?_qualified hlast, Option.some.injEq] at hparent
    exact ⟨String.ofList back, hlast, hparent ▸ hname⟩
  · rintro ⟨last, hlast, rfl⟩
    exact parent?_qualified hlast

/-- A name with a dot is the name that it lies in, a dot and its simple name. -/
theorem eq_qualified (hparent : parent? name = some parent) :
    name = parent ++ "." ++ simple name ∧ '.' ∉ (simple name).toList := by
  obtain ⟨last, hlast, hname⟩ := parent?_eq_some_iff.1 hparent
  have hsimple : simple name = last := by rw [hname, simple_qualified hlast]
  rw [hsimple]
  exact ⟨hname, hlast⟩

theorem depth_of_parent? (hparent : parent? name = some parent) :
    depth name = depth parent + 1 := by
  obtain ⟨last, hlast, rfl⟩ := parent?_eq_some_iff.1 hparent
  have hnone : last.toList.count '.' = 0 := List.count_eq_zero.2 hlast
  rw [depth, toList_qualified, List.count_append, List.count_cons_self, hnone, depth]

/-! ## The names that contain a name -/

theorem enclosing_of_plain (hplain : parent? name = none) : enclosing name = [] := by
  have hdepth : depth name = 0 := List.count_eq_zero.2 (parent?_eq_none_iff.1 hplain)
  rw [enclosing, hdepth, enclosingWithin]

theorem enclosing_of_parent? (hparent : parent? name = some parent) :
    enclosing name = parent :: enclosing parent := by
  rw [enclosing, depth_of_parent? hparent, enclosingWithin, hparent, enclosing]

/-- What holds of names without a dot, and of every name as soon as it holds of the one that it lies
in, holds of all names. -/
theorem parentInduction {motive : String → Prop} (plain : ∀ name, parent? name = none → motive name)
    (inside : ∀ name parent, parent? name = some parent → motive parent → motive name)
    (name : String) : motive name := by
  induction hdepth : depth name generalizing name with
  | zero =>
      refine plain name (parent?_eq_none_iff.2 ?_)
      exact List.count_eq_zero.1 hdepth
  | succ n ih =>
      cases hparent : parent? name with
      | none => exact plain name hparent
      | some parent =>
          have hbelow : depth parent = n := by
            have hsucc := depth_of_parent? hparent
            omega
          exact inside name parent hparent (ih parent hbelow)

/-- The names that contain a name are those before its dots. -/
theorem mem_enclosing_iff : outer ∈ enclosing name ↔ ∃ rest, name = outer ++ "." ++ rest := by
  induction name using parentInduction with
  | plain name hplain =>
      rw [enclosing_of_plain hplain]
      constructor
      · intro hmem
        cases hmem
      · rintro ⟨rest, rfl⟩
        exact absurd (by simp) (parent?_eq_none_iff.1 hplain)
  | inside name parent hparent ih =>
      obtain ⟨hname, _⟩ := eq_qualified hparent
      rw [enclosing_of_parent? hparent, List.mem_cons, ih]
      constructor
      · rintro (rfl | ⟨rest, hrest⟩)
        · exact ⟨simple name, hname⟩
        · refine ⟨rest ++ "." ++ simple name, hname.trans ?_⟩
          rw [hrest]
          simp only [String.append_assoc]
      · rintro ⟨rest, hrest⟩
        cases hinner : parent? rest with
        | none =>
            -- the cut is at the last dot
            left
            have hcut : parent? name = some outer :=
              parent?_eq_some_iff.2 ⟨rest, parent?_eq_none_iff.1 hinner, hrest⟩
            exact Option.some.inj (hcut.symm.trans hparent)
        | some inner =>
            right
            obtain ⟨hsplit, hlast⟩ := eq_qualified hinner
            have hcut : parent? name = some (outer ++ "." ++ inner) := by
              refine parent?_eq_some_iff.2 ⟨simple rest, hlast, ?_⟩
              calc
                name = outer ++ "." ++ rest := hrest
                _ = outer ++ "." ++ (inner ++ "." ++ simple rest) := by rw [← hsplit]
                _ = outer ++ "." ++ inner ++ "." ++ simple rest := by
                  simp only [String.append_assoc]
            exact ⟨inner, Option.some.inj (hparent.symm.trans hcut)⟩

/-- An empty part of a name is a part like any other. -/
example : enclosing "a..b" = ["a.", "a"] := by decide

theorem depth_lt_of_mem_enclosing (hmem : outer ∈ enclosing name) : depth outer < depth name := by
  obtain ⟨rest, rfl⟩ := mem_enclosing_iff.1 hmem
  rw [depth, depth, toList_qualified, List.count_append, List.count_cons_self]
  omega

theorem nodup_enclosing (name : String) : (enclosing name).Nodup := by
  induction name using parentInduction with
  | plain name hplain =>
      rw [enclosing_of_plain hplain]
      exact List.nodup_nil
  | inside name parent hparent ih =>
      rw [enclosing_of_parent? hparent]
      refine List.nodup_cons.2 ⟨?_, ih⟩
      intro hmem
      exact Nat.lt_irrefl _ (depth_lt_of_mem_enclosing hmem)

/-! ## Covered names -/

theorem coveredBy_iff :
    coveredBy name entry = true ↔ name = entry ∨ ∃ rest, name = entry ++ "." ++ rest := by
  rw [coveredBy, Bool.or_eq_true, decide_eq_true_eq, List.isPrefixOf_iff_prefix]
  refine or_congr_right ?_
  constructor
  · rintro ⟨rest, hrest⟩
    refine ⟨String.ofList rest, String.toList_injective ?_⟩
    rw [String.toList_append, String.toList_ofList, hrest]
  · rintro ⟨rest, rfl⟩
    exact ⟨rest.toList, String.toList_append.symm⟩

/-- What covers a containing name covers the contained one. -/
theorem coveredBy_of_enclosing (hmem : outer ∈ enclosing name)
    (hcovered : coveredBy outer entry = true) : coveredBy name entry = true := by
  obtain ⟨rest, rfl⟩ := mem_enclosing_iff.1 hmem
  refine coveredBy_iff.2 (.inr ?_)
  rcases coveredBy_iff.1 hcovered with rfl | ⟨inner, rfl⟩
  · exact ⟨rest, rfl⟩
  · exact ⟨inner ++ "." ++ rest, by simp only [String.append_assoc]⟩

end QualifiedName
end Typings

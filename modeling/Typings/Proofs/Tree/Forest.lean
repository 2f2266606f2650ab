import Typings.Tree.Forest

/-!
# Walks over forests

The walk with a stack takes every declaration of a forest once, each before those below it.

* `walk_grow`: the walk by the structure of a forest;
* `walk_map`, `map_congr`: a changed forest and its walk.
-/

namespace Typings
namespace Forest

/-! ## The walk by structure -/

/-- The declarations of a forest, by its structure. -/
def preorder : Forest → List Declaration
  | .empty => []
  | .grow d below beside => d :: (preorder below ++ preorder beside)

theorem walkStack_eq_flatMap (stack : List Forest) : walkStack stack = stack.flatMap preorder := by
  fun_induction walkStack stack with
  | case1 => rfl
  | case2 stack ih => exact ih
  | case3 d below beside stack ih =>
      rw [ih]
      simp [preorder]

theorem walk_eq_preorder (forest : Forest) : forest.walk = forest.preorder := by
  rw [walk, walkStack_eq_flatMap, List.flatMap_singleton]

@[simp] theorem walk_empty : (Forest.empty).walk = [] := by
  rw [walk_eq_preorder, preorder]

@[simp] theorem walk_grow (d : Declaration) (below beside : Forest) :
    (Forest.grow d below beside).walk = d :: (below.walk ++ beside.walk) := by
  rw [walk_eq_preorder, walk_eq_preorder, walk_eq_preorder, preorder]

/-! ## Changes that keep the shape -/

theorem walk_map (f : Declaration → Declaration) (forest : Forest) :
    (forest.map f).walk = forest.walk.map f := by
  induction forest with
  | empty => rw [map, walk_empty, List.map_nil]
  | grow d below beside ihbelow ihbeside =>
      rw [map, walk_grow, walk_grow, ihbelow, ihbeside, List.map_cons, List.map_append]

/-- A forest is changed as its declarations are. -/
theorem map_congr {f g : Declaration → Declaration} {forest : Forest}
    (h : ∀ d ∈ forest.walk, f d = g d) : forest.map f = forest.map g := by
  induction forest with
  | empty => rfl
  | grow d below beside ihbelow ihbeside =>
      rw [walk_grow, List.forall_mem_cons, List.forall_mem_append] at h
      obtain ⟨hd, hbelow, hbeside⟩ := h
      rw [map, map, hd, ihbelow hbelow, ihbeside hbeside]

theorem map_id (forest : Forest) : forest.map id = forest := by
  induction forest with
  | empty => rfl
  | grow d below beside ihbelow ihbeside => rw [map, ihbelow, ihbeside, id_eq]

end Forest
end Typings

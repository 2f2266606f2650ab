/-!
# Tables with ordered keys

A table is a list of key and value pairs. `Table.put` gives an old key its new value in place and
appends a new key, so the keys stay distinct and in the order of their first appearance.
`List.lookup` reads the value of a key.
-/

namespace Typings

/-- Keys with values, in the order in which the keys first appeared. -/
abbrev Table (α : Type) := List (String × α)

namespace Table

variable {α : Type}

/-- Give a key a value: in place when the key is there, at the end otherwise. -/
def put (key : String) (value : α) : Table α → Table α
  | [] => [(key, value)]
  | (k, v) :: rest => if k = key then (k, value) :: rest else (k, v) :: put key value rest

/-- The table that a list of pairs writes, pair after pair. -/
def ofPairs (pairs : List (String × α)) : Table α :=
  pairs.foldl (fun table pair => table.put pair.1 pair.2) []

/-- The keys of a table in order. -/
def keys (table : Table α) : List String :=
  table.map (·.1)

theorem lookup_cons_eq (key other : String) (value : α) (rest : Table α) :
    List.lookup other ((key, value) :: rest) =
      if other = key then some value else List.lookup other rest := by
  rw [List.lookup_cons]
  by_cases h : other = key
  · simp [h]
  · have hbeq : (other == key) = false := beq_false_of_ne h
    rw [hbeq, if_neg h]

theorem lookup_put (key other : String) (value : α) (table : Table α) :
    List.lookup other (put key value table) =
      if other = key then some value else List.lookup other table := by
  induction table with
  | nil => simp [put, lookup_cons_eq]
  | cons pair rest ih =>
      obtain ⟨k, v⟩ := pair
      by_cases hk : k = key
      · subst hk
        by_cases h : other = k <;> simp [put, lookup_cons_eq, h]
      · by_cases h : other = k
        · have : other ≠ key := fun heq => hk (h.symm.trans heq)
          simp [put, hk, h]
        · simp [put, hk, lookup_cons_eq, h, ih]

theorem keys_put (key : String) (value : α) (table : Table α) :
    keys (put key value table) =
      if key ∈ keys table then keys table else keys table ++ [key] := by
  induction table with
  | nil => simp [put, keys]
  | cons pair rest ih =>
      obtain ⟨k, v⟩ := pair
      by_cases hk : k = key
      · simp [put, keys, hk]
      · have hk' : ¬ key = k := fun h => hk h.symm
        have hcons : keys (put key value ((k, v) :: rest)) = k :: keys (put key value rest) := by
          simp [put, hk, keys]
        rw [hcons, ih]
        by_cases hmem : key ∈ keys rest
        · simp [keys] at hmem ⊢
          simp [hmem]
        · have hmem' : ¬ key ∈ keys ((k, v) :: rest) := by
            simp only [keys, List.map_cons, List.mem_cons, hk', false_or]
            exact hmem
          rw [if_neg hmem, if_neg hmem']
          simp [keys]

end Table
end Typings

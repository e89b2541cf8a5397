/-!
# Lists that ascend by key

* `Assoc.insert` — puts a value under a key and keeps the list ascending; a value that was there
  is replaced.
* `Assoc.ofList` — the ascending list of some pairs; of several pairs with one key the last counts.
-/

namespace Placeholders.Assoc

variable {α : Type}

/-- Puts a value under a key, in place of one that was there. -/
def insert (key : String) (value : α) : List (String × α) → List (String × α)
  | [] => [(key, value)]
  | (k, v) :: rest =>
    if key < k then (key, value) :: (k, v) :: rest
    else if key = k then (key, value) :: rest
    else (k, v) :: insert key value rest

/-- The pairs in ascending order of keys, the last one for each key. -/
def ofList (pairs : List (String × α)) : List (String × α) :=
  pairs.foldl (fun acc (key, value) => insert key value acc) []

end Placeholders.Assoc

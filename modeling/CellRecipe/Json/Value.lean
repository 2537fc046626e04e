import CellRecipe.Decimal.Double

/-!
# JSON values

A JSON document as a tree. Members of an object stand in the order of the text and a key may occur
more than once, so that a reader of records can refuse a repeated field; `Fields` is the type of an
object kept as data, in which every object at every depth has distinct keys.

A repeated key of such an object keeps the position of its first occurrence and the value of its
last one (`put`).

## Main results

* `keys_put`: what `put` does to the keys of an object.
* `distinct_settled`: settling repeated keys leaves every object with distinct keys.
* `settled_of_distinct`: a value with distinct keys is settled already.
-/

namespace CellRecipe

/-- A JSON number: an integer of at most 64 bits, or a double. -/
inductive Number where
  | whole (value : Int)
  | real (value : Decimal.Double)
  deriving DecidableEq, Inhabited

/-- A JSON document. -/
inductive Json where
  | null
  | bool (value : Bool)
  | number (value : Number)
  | string (value : String)
  | array (items : List Json)
  | object (members : List (String × Json))
  deriving Inhabited

namespace Json

/-- Members of an object, in order. -/
abbrev Members := List (String × Json)

/-- The keys of an object, in order. -/
def keys (ms : Members) : List String := ms.map (·.1)

/-- The value at a key, if the object has the key. -/
def member? (ms : Members) (key : String) : Option Json := ms.lookup key

/-! ## Repeated keys -/

/-- Sets the value at `key`: in place if the key is there, at the end if not. -/
def put : Members → String → Json → Members
  | [], key, value => [(key, value)]
  | (k, v) :: rest, key, value =>
    if k = key then (k, value) :: rest else (k, v) :: put rest key value

theorem keys_put (ms : Members) (key : String) (value : Json) :
    keys (put ms key value) = if key ∈ keys ms then keys ms else keys ms ++ [key] := by
  induction ms with
  | nil => simp [put, keys]
  | cons m rest ih =>
    obtain ⟨k, v⟩ := m
    by_cases h : k = key
    · simp [put, keys, h]
    · have hk : ¬ key = k := fun e => h e.symm
      have ih' : List.map (·.1) (put rest key value)
          = if key ∈ List.map (·.1) rest then List.map (·.1) rest
            else List.map (·.1) rest ++ [key] := ih
      simp only [put, keys, h, if_false, List.map_cons, List.mem_cons, hk, false_or, ih']
      split <;> simp

/-- Setting a key keeps distinct keys distinct. -/
theorem nodup_keys_put {ms : Members} (h : (keys ms).Nodup) (key : String) (value : Json) :
    (keys (put ms key value)).Nodup := by
  rw [keys_put]
  split
  · exact h
  · next hk => exact List.nodup_append.2 ⟨h, by simp, by simp; exact fun a ha e => hk (e ▸ ha)⟩

/-- A member of the object after `put` is the one set, or was there before. -/
theorem mem_put {ms : Members} {key : String} {value : Json} {m : String × Json}
    (h : m ∈ put ms key value) : m.2 = value ∨ m ∈ ms := by
  induction ms with
  | nil => simp only [put, List.mem_singleton] at h; exact .inl (by rw [h])
  | cons x rest ih =>
    obtain ⟨k, v⟩ := x
    by_cases hk : k = key
    · simp only [put, hk, if_true, List.mem_cons] at h
      rcases h with rfl | h
      · exact .inl rfl
      · exact .inr (List.mem_cons_of_mem _ h)
    · simp only [put, hk, if_false, List.mem_cons] at h
      rcases h with rfl | h
      · exact .inr List.mem_cons_self
      · exact (ih h).imp id (List.mem_cons_of_mem _)

/-- A key that is new goes to the end. -/
theorem put_of_not_mem {ms : Members} {key : String} (h : key ∉ keys ms) (value : Json) :
    put ms key value = ms ++ [(key, value)] := by
  induction ms with
  | nil => rfl
  | cons x rest ih =>
    obtain ⟨k, v⟩ := x
    simp only [keys, List.map_cons, List.mem_cons, not_or] at h
    have hk : ¬ k = key := fun e => h.1 e.symm
    simp [put, hk, ih h.2]

mutual

/-- Every repeated key, at every depth, with one value left. -/
def settled : Json → Json
  | .array items => .array (settledItems items)
  | .object ms => .object (settledMembers ms [])
  | .null => .null
  | .bool b => .bool b
  | .number n => .number n
  | .string s => .string s

/-- The items with their repeated keys settled. -/
def settledItems : List Json → List Json
  | [] => []
  | x :: rest => settled x :: settledItems rest

/-- The members set one after the other on top of `done`. -/
def settledMembers : List (String × Json) → Members → Members
  | [], done => done
  | (k, v) :: rest, done => settledMembers rest (put done k (settled v))

end

mutual

/-- Has every object in the value distinct keys? -/
def Distinct : Json → Prop
  | .array items => DistinctItems items
  | .object ms => (keys ms).Nodup ∧ DistinctMembers ms
  | .null => True
  | .bool _ => True
  | .number _ => True
  | .string _ => True

/-- Have all items distinct keys? -/
def DistinctItems : List Json → Prop
  | [] => True
  | x :: rest => Distinct x ∧ DistinctItems rest

/-- Have the values of all members distinct keys? -/
def DistinctMembers : List (String × Json) → Prop
  | [] => True
  | (_, v) :: rest => Distinct v ∧ DistinctMembers rest

end

theorem distinctMembers_iff {ms : Members} : DistinctMembers ms ↔ ∀ m ∈ ms, Distinct m.2 := by
  induction ms with
  | nil => simp [DistinctMembers]
  | cons x rest ih => obtain ⟨k, v⟩ := x; simp [DistinctMembers, ih]

/-- Setting a member keeps every object distinct. -/
theorem distinct_object_put {ms : Members} (h : Distinct (.object ms)) (key : String)
    {value : Json} (hv : Distinct value) : Distinct (.object (put ms key value)) := by
  refine ⟨nodup_keys_put h.1 key value, distinctMembers_iff.2 fun m hm => ?_⟩
  rcases mem_put hm with e | hm
  · exact e ▸ hv
  · exact distinctMembers_iff.1 h.2 m hm

mutual

theorem distinct_settled : (j : Json) → Distinct (settled j)
  | .array items => by rw [settled]; exact distinct_settledItems items
  | .object ms => by
    rw [settled]
    exact distinct_settledMembers ms [] ⟨List.nodup_nil, trivial⟩
  | .null => trivial
  | .bool _ => trivial
  | .number _ => trivial
  | .string _ => trivial

theorem distinct_settledItems : (items : List Json) → DistinctItems (settledItems items)
  | [] => trivial
  | x :: rest => ⟨distinct_settled x, distinct_settledItems rest⟩

theorem distinct_settledMembers : (ms : List (String × Json)) → (base : Members) →
    Distinct (.object base) → Distinct (.object (settledMembers ms base))
  | [], _, h => h
  | (k, v) :: rest, _, h =>
    distinct_settledMembers rest _ (distinct_object_put h k (distinct_settled v))

end

mutual

theorem settled_of_distinct : (j : Json) → Distinct j → settled j = j
  | .array items, h => by rw [settled, settledItems_of_distinct items h]
  | .object ms, h => by
    rw [settled, settledMembers_of_distinct ms [] (by simpa [keys] using h.1) h.2]; rfl
  | .null, _ => rfl
  | .bool _, _ => rfl
  | .number _, _ => rfl
  | .string _, _ => rfl

theorem settledItems_of_distinct : (items : List Json) → DistinctItems items →
    settledItems items = items
  | [], _ => rfl
  | x :: rest, h => by
    rw [settledItems, settled_of_distinct x h.1, settledItems_of_distinct rest h.2]

theorem settledMembers_of_distinct : (ms : List (String × Json)) → (done : Members) →
    (keys done ++ keys ms).Nodup → DistinctMembers ms → settledMembers ms done = done ++ ms
  | [], done, _, _ => by simp [settledMembers]
  | (k, v) :: rest, done, hk, h => by
    have hnew : k ∉ keys done := fun hm =>
      (List.nodup_append.1 hk).2.2 k hm k (by simp [keys]) rfl
    rw [settledMembers, settled_of_distinct v h.1, put_of_not_mem hnew,
      settledMembers_of_distinct rest (done ++ [(k, v)])
        (by simpa [keys, List.append_assoc] using hk) h.2]
    simp

end

/-! ## Objects kept as data -/

/-- An object with distinct keys at every depth, its members in order. -/
structure Fields where
  members : Members
  distinct : Distinct (.object members)

namespace Fields

/-- The object without members. -/
def empty : Fields := ⟨[], List.nodup_nil, trivial⟩

instance : Inhabited Fields := ⟨empty⟩

/-- The members with repeated keys settled. -/
def ofMembers (ms : Members) : Fields :=
  ⟨settledMembers ms [], distinct_settledMembers ms [] ⟨List.nodup_nil, trivial⟩⟩

/-- Has the object no member? -/
def isEmpty (f : Fields) : Bool := f.members.isEmpty

@[simp] theorem ofMembers_members (f : Fields) : ofMembers f.members = f := by
  obtain ⟨ms, h⟩ := f
  have e : settledMembers ms [] = ms :=
    settledMembers_of_distinct ms [] (by simpa [keys] using h.1) h.2
  simp only [ofMembers, e]

end Fields

end Json

end CellRecipe

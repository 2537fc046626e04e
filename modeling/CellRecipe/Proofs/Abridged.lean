import CellRecipe.Proofs.JsonRecord

/-!
# Reading what was abridged

Whoever writes a record may leave out the fields that say nothing beyond their default. Here members
are taken out of a written value at any depth: a part of a value is found by the path that leads to
it, and a set of paths says which members are gone. A type tells its spare members, that is, those
whose value is the default that stands in for them. `ReadsAbridged` says that nothing is lost
whichever spare members are gone, together or alone.

Whether a member is gone depends on its own path only, so each field of a record can be looked at
alone: either the field is gone, and was the default, or it is still there, and its value has been
abridged in turn.

## Main definitions

* `Json.without`: a value without the members at some paths.
* `Json.Spare.members`: the spare members of a record, from those of its fields.
* `Json.ReadsAbridged`: what was written is read back, whichever spare members are gone.

## Main results

* `Json.member?_membersWithout`: what is left under a name.
* `Json.required_abridged`, `Json.withDefault_abridged`, `Json.optional_abridged`: a field is read
  back.
* `Json.ReadsAbridged.list`, `Json.ReadsAbridged.orNull`: lists and values that may be missing.
-/

namespace CellRecipe.Json

variable {α : Type}

/-! ## Paths -/

/-- A step into a value: to a member of an object, or to an item of an array. -/
inductive Step where
  | key (name : String)
  | item (index : Nat)
  deriving DecidableEq

/-- The steps from a value to one of its parts. -/
abbrev Path := List Step

mutual

/-- The value without the members at the paths that are gone. -/
def without (gone : Path → Bool) : Json → Json
  | .array items => .array (itemsWithout gone 0 items)
  | .object ms => .object (membersWithout gone ms)
  | .null => .null
  | .bool b => .bool b
  | .number n => .number n
  | .string s => .string s

/-- The items, of which the first one has the given index. -/
def itemsWithout (gone : Path → Bool) (index : Nat) : List Json → List Json
  | [] => []
  | x :: rest =>
    x.without (fun p => gone (.item index :: p)) :: itemsWithout gone (index + 1) rest

/-- The members that are left, and what is left of them. -/
def membersWithout (gone : Path → Bool) : List (String × Json) → List (String × Json)
  | [] => []
  | (k, v) :: rest =>
    if gone [.key k] then membersWithout gone rest
    else (k, v.without fun p => gone (.key k :: p)) :: membersWithout gone rest

end

mutual

/-- If nothing is gone, everything is left. -/
theorem without_of_none {gone : Path → Bool} (h : ∀ p, gone p = false) :
    (j : Json) → j.without gone = j
  | .array items => by rw [without, itemsWithout_of_none h 0 items]
  | .object ms => by rw [without, membersWithout_of_none h ms]
  | .null => rfl
  | .bool _ => rfl
  | .number _ => rfl
  | .string _ => rfl

theorem itemsWithout_of_none {gone : Path → Bool} (h : ∀ p, gone p = false) :
    (index : Nat) → (items : List Json) → itemsWithout gone index items = items
  | _, [] => rfl
  | index, x :: rest => by
      rw [itemsWithout, without_of_none (fun _ => h _) x, itemsWithout_of_none h (index + 1) rest]

theorem membersWithout_of_none {gone : Path → Bool} (h : ∀ p, gone p = false) :
    (ms : List (String × Json)) → membersWithout gone ms = ms
  | [] => rfl
  | (k, v) :: rest => by
      rw [membersWithout, if_neg (by simp [h]), without_of_none (fun _ => h _) v,
        membersWithout_of_none h rest]

end

theorem without_ne_null {j : Json} (h : j ≠ .null) (gone : Path → Bool) :
    j.without gone ≠ .null := by
  cases j with
  | null => exact absurd rfl h
  | _ => simp [without]

variable {gone : Path → Bool}

/-- What is left under a name is up to the paths that start with it. -/
theorem member?_membersWithout (gone : Path → Bool) (ms : Members) (name : String) :
    member? (membersWithout gone ms) name
      = if gone [.key name] then none
        else (member? ms name).map (without fun p => gone (.key name :: p)) := by
  induction ms with
  | nil => simp [membersWithout, member?]
  | cons m rest ih =>
      obtain ⟨k, v⟩ := m
      rw [member?] at ih ⊢
      by_cases hk : name = k
      · subst hk
        cases hgone : gone [.key name] with
        | true => simpa [membersWithout, hgone] using ih
        | false => simp [membersWithout, hgone, member?]
      · have hne : (name == k) = false := by simpa using hk
        cases hgone : gone [.key k] with
        | true =>
            rw [membersWithout, if_pos hgone, ih, member?, member?, List.lookup_cons, hne]
        | false =>
            rw [membersWithout, if_neg (by simp [hgone]), List.lookup_cons, hne, ih, member?,
              member?, List.lookup_cons, hne]

theorem keys_membersWithout_sublist (gone : Path → Bool) (ms : Members) :
    (keys (membersWithout gone ms)).Sublist (keys ms) := by
  induction ms with
  | nil => exact .slnil
  | cons m rest ih =>
      obtain ⟨k, v⟩ := m
      rw [membersWithout]
      split
      · exact ih.cons k
      · exact ih.cons_cons k

/-! ## Spare members -/

/-- The paths of members that may be taken out of a value. -/
abbrev Spare := Path → Prop

/-- A field of a record: is it spare itself, and which members of its value are? -/
structure Slack where
  name : String
  itself : Prop
  within : Spare

namespace Slack

/-- A field that is never spare itself. -/
def required (name : String) (within : Spare) : Slack := ⟨name, False, within⟩

/-- A field with a default. -/
def withDefault (name : String) (x default : α) (within : Spare) : Slack :=
  ⟨name, x = default, within⟩

/-- The field of that name, if it has been given any slack. -/
def find? (fields : List Slack) (name : String) : Option Slack :=
  List.find? (fun s => s.name == name) fields

end Slack

namespace Spare

/-- Nothing is spare. -/
def nowhere : Spare := fun _ => False

/-- The spare members of a record, by its fields that have slack. -/
def members (fields : List Slack) : Spare
  | [.key name] => ∃ s ∈ Slack.find? fields name, s.itself
  | .key name :: p => ∃ s ∈ Slack.find? fields name, s.within p
  | _ => False

/-- The spare members of a list, from those of its items. -/
def items (spare : α → Spare) (xs : List α) : Spare
  | .item i :: p => ∃ x ∈ xs[i]?, spare x p
  | _ => False

/-- The spare members of a value that may be missing. -/
def found (spare : α → Spare) (x : Option α) : Spare := fun p => ∃ a ∈ x, spare a p

end Spare

/-- A field that may be missing. -/
def Slack.optional (name : String) (x : Option α) (spare : α → Spare) : Slack :=
  .withDefault name x none (Spare.found spare x)

/-- All members that are gone are spare. -/
def OnlySpare (gone : Path → Bool) (spare : Spare) : Prop := ∀ p, gone p = true → spare p

/-- What was written is read back, whichever of its spare members are gone. -/
def ReadsAbridged (read : Source → Option α) (write : α → Document) (spare : α → Spare) : Prop :=
  ∀ x gone, OnlySpare gone (spare x) → read (.ofJson ((write x).toJson.without gone)) = some x

variable {read : Source → Option α} {write : α → Document} {spare : α → Spare}

/-- The value itself is among what is read back: nothing has to be gone. -/
theorem ReadsAbridged.reads (h : ReadsAbridged read write spare) : Reads read write := by
  intro x
  have hx := h x (fun _ => false) fun p hp => by cases hp
  rwa [without_of_none fun _ => rfl] at hx

/-- What has nothing to spare is left as it is. -/
theorem Reads.abridged (h : Reads read write) :
    ReadsAbridged read write fun _ => Spare.nowhere := by
  intro x gone hgone
  have hnone : ∀ p, gone p = false := fun p => Bool.eq_false_iff.2 (hgone p)
  rw [without_of_none hnone]
  exact h x

private theorem mapM_itemsWithout (h : ReadsAbridged read write spare) (xs : List α) (index : Nat)
    (hgone : ∀ (i : Nat) (x : α), xs[i]? = some x →
      OnlySpare (fun p => gone (.item (index + i) :: p)) (spare x)) :
    (Source.ofItems (itemsWithout gone index (Document.itemsToJson (xs.map write)))).mapM read
      = some xs := by
  induction xs generalizing index with
  | nil => rfl
  | cons x rest ih =>
      have hx : read (.ofJson ((write x).toJson.without fun p => gone (.item index :: p)))
          = some x := h x _ (hgone 0 x rfl)
      have hrest := ih (index + 1) fun i y hy => by
        have hi : index + 1 + i = index + (i + 1) := by omega
        rw [hi]
        exact hgone (i + 1) y hy
      simp only [List.map_cons, Document.itemsToJson, itemsWithout, Source.ofItems, List.mapM_cons,
        hx, hrest]
      rfl

theorem ReadsAbridged.list (h : ReadsAbridged read write spare) :
    ReadsAbridged (list? read) (fun xs => .list (xs.map write)) (Spare.items spare) := by
  intro xs gone hgone
  refine mapM_itemsWithout h xs 0 ?_
  intro i x hx p hp
  rw [Nat.zero_add] at hp
  obtain ⟨y, hy, hspare⟩ := hgone _ hp
  obtain rfl := Option.some.inj (hx.symm.trans hy)
  exact hspare

theorem ReadsAbridged.orNull (h : ReadsAbridged read write spare)
    (hnull : ∀ x, (write x).toJson ≠ .null) :
    ReadsAbridged (orNull? read) (Document.orNull write) (Spare.found spare) := by
  intro found gone hgone
  cases found with
  | none => rfl
  | some x =>
      have hx := h x gone fun p hp => by
        obtain ⟨a, ha, hspare⟩ := hgone p hp
        obtain rfl := Option.some.inj ha
        exact hspare
      rw [Document.orNull, orNull?_ofJson (without_ne_null (hnull x) gone), hx]
      rfl

theorem abridged_orNull_text :
    ReadsAbridged (orNull? text?) (Document.orNull .text) (Spare.found fun _ => .nowhere) :=
  reads_text.abridged.orNull fun _ => by simp [Document.toJson]

/-! ## Records -/

/-- A record is still a record without some of its fields. -/
theorem record_without {names : List String} {ms : Members} (hkeys : keys ms = names)
    (distinct : names.Nodup) :
    Record.of? names (.ofJson ((Json.object ms).without gone))
      = some (.ofObject (membersWithout gone ms)) := by
  rw [without]
  exact of?_ofJson_object names (distinct.sublist (hkeys ▸ keys_membersWithout_sublist gone ms))

variable {fields : List Slack} {ms : Members} {name : String} {x : α} {s : Slack}

/-- A field that is still there has lost only what is spare within it. -/
theorem OnlySpare.within (hgone : OnlySpare gone (Spare.members fields))
    (hs : Slack.find? fields name = some s) (hkept : gone [.key name] = false) :
    OnlySpare (fun p => gone (.key name :: p)) s.within := by
  intro p hp
  cases p with
  | nil => exact absurd (hkept.symm.trans hp) Bool.false_ne_true
  | cons step p =>
      obtain ⟨s', hs', hwithin⟩ := hgone (.key name :: step :: p) hp
      obtain rfl := Option.some.inj (hs.symm.trans hs')
      exact hwithin

theorem OnlySpare.itself (hgone : OnlySpare gone (Spare.members fields))
    (hs : Slack.find? fields name = some s) (hout : gone [.key name] = true) : s.itself := by
  obtain ⟨s', hs', hitself⟩ := hgone [.key name] hout
  obtain rfl := Option.some.inj (hs.symm.trans hs')
  exact hitself

/-- A field without slack is still there, and whole. -/
theorem OnlySpare.kept (hgone : OnlySpare gone (Spare.members fields))
    (hs : Slack.find? fields name = none) (p : Path) : gone (.key name :: p) = false := by
  refine Bool.eq_false_iff.2 fun hp => ?_
  cases p with
  | nil =>
      obtain ⟨s, hs', -⟩ := hgone [.key name] hp
      cases hs.symm.trans hs'
  | cons step p =>
      obtain ⟨s, hs', -⟩ := hgone (.key name :: step :: p) hp
      cases hs.symm.trans hs'

/-- What is left under a name of which nothing is spare. -/
theorem member?_of_kept {j : Json} (hgone : OnlySpare gone (Spare.members fields))
    (hm : member? ms name = some j) (hs : Slack.find? fields name = none) :
    member? (membersWithout gone ms) name = some j := by
  have hnone := hgone.kept hs
  rw [member?_membersWithout, if_neg (by simp [hnone []]), hm, Option.map_some,
    without_of_none hnone]

theorem required_of_kept (hgone : OnlySpare gone (Spare.members fields)) (h : Reads read write)
    (hm : member? ms name = some (write x).toJson) (hs : Slack.find? fields name = none) :
    (Record.ofObject (membersWithout gone ms)).required name read = some x :=
  required_eq h (member?_of_kept hgone hm hs)

/-- What is left under the name of a field that is never spare itself. -/
theorem member?_of_required {j : Json} {within : Spare}
    (hgone : OnlySpare gone (Spare.members fields)) (hm : member? ms name = some j)
    (hs : Slack.find? fields name = some (.required name within)) :
    ∃ inner, OnlySpare inner within ∧
      member? (membersWithout gone ms) name = some (j.without inner) := by
  have hkept : gone [.key name] = false := Bool.eq_false_iff.2 fun hout => hgone.itself hs hout
  refine ⟨fun p => gone (.key name :: p), hgone.within hs hkept, ?_⟩
  rw [member?_membersWithout, if_neg (by simp [hkept]), hm, Option.map_some]

theorem required_abridged (hgone : OnlySpare gone (Spare.members fields))
    (h : ReadsAbridged read write spare) (hm : member? ms name = some (write x).toJson)
    (hs : Slack.find? fields name = some (.required name (spare x))) :
    (Record.ofObject (membersWithout gone ms)).required name read = some x := by
  obtain ⟨inner, hinner, hmember⟩ := member?_of_required hgone hm hs
  rw [Record.required, Record.ofObject, lookup_ofMembers, hmember]
  exact h x inner hinner

/-- A field with a default is gone only where it has that default. -/
theorem withDefault_abridged {default : α} (hgone : OnlySpare gone (Spare.members fields))
    (h : ReadsAbridged read write spare) (hm : member? ms name = some (write x).toJson)
    (hs : Slack.find? fields name = some (.withDefault name x default (spare x))) :
    (Record.ofObject (membersWithout gone ms)).withDefault name default read = some x := by
  have hmember := member?_membersWithout gone ms name
  cases hout : gone [.key name] with
  | true =>
      have hx : x = default := hgone.itself hs hout
      rw [hout, if_pos rfl] at hmember
      rw [withDefault_of_absent default read hmember, hx]
  | false =>
      rw [hout, if_neg Bool.false_ne_true, hm, Option.map_some] at hmember
      rw [Record.withDefault, Record.ofObject, lookup_ofMembers, hmember]
      exact h x _ (hgone.within hs hout)

theorem optional_abridged {found : Option α} (hgone : OnlySpare gone (Spare.members fields))
    (h : ReadsAbridged (orNull? read) (Document.orNull write) (Spare.found spare))
    (hm : member? ms name = some (Document.orNull write found).toJson)
    (hs : Slack.find? fields name = some (.optional name found spare)) :
    (Record.ofObject (membersWithout gone ms)).optional name read = some found :=
  withDefault_abridged hgone h hm hs

/-! ## Cases that name themselves -/

/-- The case stays with a value whose other members are abridged. -/
theorem splitCase?_without {field case : String} (hfield : field ∉ keys ms)
    (hkept : ∀ p, gone (.key field :: p) = false) :
    splitCase? field (.ofJson ((Json.object ((field, .string case) :: ms)).without gone))
      = some (case, .ofJson ((Json.object ms).without gone)) := by
  have hrest : field ∉ keys (membersWithout gone ms) := fun hm =>
    hfield ((keys_membersWithout_sublist gone ms).subset hm)
  rw [without, membersWithout, if_neg (by simp [hkept []]), without, without]
  exact splitCase?_ofJson hrest

end CellRecipe.Json

/-
# SomeServer.Loader.Config — one configuration laid over another

The loader reads the main configuration, and merges the override file into it. Both are JSON values as
`glz::generic` has them: an object is a `std::map`, so its members come in the order of their keys and no key
comes twice. `Json` is such a value without this condition, `Json.Ordered` the condition at every level, and
`Generic` a value that satisfies it.
-/
import SomeServer.Lib.OrderedMap
import Mathlib.Data.String.Basic

namespace SomeServer

open Lib.Ordered

/-- A JSON value; a number is the bits of its `double`. -/
inductive Json where
  | null
  | boolean (value : Bool)
  | number (bits : UInt64)
  | string (text : String)
  | array (items : List Json)
  | object (members : List (String × Json))

namespace Json

def isObject : Json → Bool
  | .object _ => true
  | _ => false

/-- The members of every object are in order. -/
inductive Ordered : Json → Prop
  | null : Ordered .null
  | boolean (value : Bool) : Ordered (.boolean value)
  | number (bits : UInt64) : Ordered (.number bits)
  | string (text : String) : Ordered (.string text)
  | array {items : List Json} : (∀ value ∈ items, Ordered value) → Ordered (.array items)
  | object {members : List (String × Json)} : Increasing members → (∀ member ∈ members, Ordered member.2) →
      Ordered (.object members)

/-- The value at a path of keys. -/
def find? : Json → List String → Option Json
  | value, [] => some value
  | .object members, key :: path => (lookup key members).bind fun value => value.find? path
  | _, _ :: _ => none

end Json

mutual

/-- `MergeConfigurationValue`: what `base` has become. -/
def mergeConfigurationValue (base : Json) : Json → Json
  | .object overrideMembers =>
      match base with
      | .object members => .object (mergeMembers members overrideMembers)
      | _ => .object overrideMembers
  | override => override

/-- The loop over the members of `override_value`. -/
def mergeMembers (members : List (String × Json)) : List (String × Json) → List (String × Json)
  | [] => members
  | (key, childValue) :: rest =>
      let merged := match lookup key members with
        | some value => mergeConfigurationValue value childValue
        | none => childValue
      mergeMembers (assign key merged members) rest

end

/-! ## One level -/

section

variable {base override : Json} {members overrideMembers : List (String × Json)} {key : String}

-- The equations are made here, once for the lemmas below.
attribute [local simp] mergeConfigurationValue mergeMembers in
@[simp] theorem find?_nil (value : Json) : value.find? [] = some value := by
  cases value <;> rfl

theorem find?_of_not_object {value : Json} (h : value.isObject = false) {path : List String} :
    value.find? (key :: path) = none := by
  cases value <;> first | rfl | cases h

theorem find?_object {path : List String} :
    (Json.object members).find? (key :: path) = (lookup key members).bind fun value => value.find? path := rfl

theorem merge_objects : mergeConfigurationValue (.object members) (.object overrideMembers) =
    .object (mergeMembers members overrideMembers) := by
  rw [mergeConfigurationValue]

/-- The override is taken as it is unless both are objects. -/
theorem merge_eq_override (h : base.isObject = false ∨ override.isObject = false) :
    mergeConfigurationValue base override = override := by
  cases override with
  | object overrideMembers =>
      cases base with
      | object members => cases h <;> contradiction
      | _ => simp [mergeConfigurationValue]
  | _ => simp [mergeConfigurationValue]

theorem lookup_mergeMembers_of_none (h : lookup key overrideMembers = none) :
    lookup key (mergeMembers members overrideMembers) = lookup key members := by
  induction overrideMembers generalizing members with
  | nil => rw [mergeMembers]
  | cons member rest ih =>
      rw [lookup_cons] at h
      split at h
      · cases h
      · next hne =>
        rw [mergeMembers, ih h, lookup_assign_of_ne (Ne.symm hne)]

/-- A key of the override is merged once: no key comes twice. -/
theorem lookup_mergeMembers_of_some {child : Json} (hincreasing : Increasing overrideMembers)
    (h : lookup key overrideMembers = some child) : lookup key (mergeMembers members overrideMembers) =
      some (((lookup key members).map fun value => mergeConfigurationValue value child).getD child) := by
  induction overrideMembers generalizing members with
  | nil => cases h
  | cons member rest ih =>
      obtain ⟨hfirst, hrest⟩ := increasing_cons.1 hincreasing
      rw [lookup_cons] at h
      split at h
      · next heq =>
        obtain rfl := heq
        obtain rfl := Option.some.inj h
        have hlater : lookup member.1 rest = none := lookup_eq_none fun e he => (hfirst e he).ne'
        rw [mergeMembers, lookup_mergeMembers_of_none hlater, lookup_assign_self]
        cases lookup member.1 members <;> rfl
      · next hne =>
        rw [mergeMembers, ih hrest h, lookup_assign_of_ne (Ne.symm hne)]

end

/-! ## Order and idempotence -/

section

variable {base override : Json} {members overrideMembers : List (String × Json)}

theorem mergeMembers_ordered
    (hmerge : ∀ member ∈ overrideMembers, member.2.Ordered ∧
      ∀ value : Json, value.Ordered → (mergeConfigurationValue value member.2).Ordered)
    (hincreasing : Increasing members) (hordered : ∀ member ∈ members, member.2.Ordered) :
    Increasing (mergeMembers members overrideMembers) ∧
      ∀ member ∈ mergeMembers members overrideMembers, member.2.Ordered := by
  induction overrideMembers generalizing members with
  | nil =>
      rw [mergeMembers]
      exact ⟨hincreasing, hordered⟩
  | cons member rest ih =>
      obtain ⟨hchild, hmerged⟩ := hmerge member List.mem_cons_self
      rw [mergeMembers]
      refine ih (fun e he => hmerge e (List.mem_cons_of_mem _ he)) hincreasing.assign fun e he => ?_
      rcases mem_assign he with rfl | he
      · dsimp only
        split
        · next value hvalue => exact hmerged value (hordered _ (mem_of_lookup hvalue))
        · exact hchild
      · exact hordered e he

theorem Json.Ordered.merge (hbase : base.Ordered) (hoverride : override.Ordered) :
    (mergeConfigurationValue base override).Ordered := by
  induction hoverride generalizing base with
  | object hincreasing hordered ih =>
      cases hbase with
      | object hbaseIncreasing hbaseOrdered =>
          rw [merge_objects]
          obtain ⟨hmerged, hall⟩ := mergeMembers_ordered
            (fun member hmember => ⟨hordered member hmember, fun _ hvalue => ih member hmember hvalue⟩)
            hbaseIncreasing hbaseOrdered
          exact .object hmerged hall
      | _ =>
          rw [merge_eq_override (.inl rfl)]
          exact .object hincreasing hordered
  | null =>
      rw [merge_eq_override (.inr rfl)]
      exact .null
  | boolean value =>
      rw [merge_eq_override (.inr rfl)]
      exact .boolean value
  | number bits =>
      rw [merge_eq_override (.inr rfl)]
      exact .number bits
  | string text =>
      rw [merge_eq_override (.inr rfl)]
      exact .string text
  | array hitems =>
      rw [merge_eq_override (.inr rfl)]
      exact .array hitems

/-- Nothing changes when every member of the override has been merged. -/
theorem mergeMembers_eq_self (hincreasing : Increasing members)
    (h : ∀ member ∈ overrideMembers, ∃ value, lookup member.1 members = some value ∧
      mergeConfigurationValue value member.2 = value) : mergeMembers members overrideMembers = members := by
  induction overrideMembers with
  | nil => rw [mergeMembers]
  | cons member rest ih =>
      obtain ⟨value, hlookup, hvalue⟩ := h member List.mem_cons_self
      rw [mergeMembers, hlookup]
      dsimp only
      rw [hvalue, assign_eq_self hincreasing hlookup]
      exact ih fun e he => h e (List.mem_cons_of_mem _ he)

theorem merge_self (h : override.Ordered) : mergeConfigurationValue override override = override := by
  induction h with
  | object hincreasing _ ih =>
      rw [merge_objects, mergeMembers_eq_self hincreasing]
      intro member hmember
      exact ⟨member.2, lookup_of_mem hincreasing hmember, ih member hmember⟩
  | _ => exact merge_eq_override (.inr rfl)

/-- Merging a second time changes nothing. -/
theorem merge_merge (hbase : base.Ordered) (hoverride : override.Ordered) :
    mergeConfigurationValue (mergeConfigurationValue base override) override =
      mergeConfigurationValue base override := by
  induction hoverride generalizing base with
  | @object overrideMembers hincreasing hordered ih =>
      by_cases hvalue : base.isObject = false
      · have hsame : mergeConfigurationValue base (.object overrideMembers) = .object overrideMembers :=
          merge_eq_override (.inl hvalue)
        rw [hsame]
        exact merge_self (.object hincreasing hordered)
      have hmerged := hbase.merge (.object hincreasing hordered)
      cases hbase with
      | @object members hbaseIncreasing hbaseOrdered =>
          rw [merge_objects] at hmerged ⊢
          cases hmerged with
          | object hmergedIncreasing _ =>
              rw [merge_objects, mergeMembers_eq_self hmergedIncreasing]
              rintro ⟨key, child⟩ hmember
              have hchild := lookup_of_mem hincreasing hmember
              refine ⟨_, lookup_mergeMembers_of_some hincreasing hchild, ?_⟩
              -- the key was there and has been merged, or the child has been taken as it is
              cases hfound : lookup key members with
              | none => exact merge_self (hordered _ hmember)
              | some value => exact ih _ hmember (hbaseOrdered _ (mem_of_lookup hfound))
      | _ => exact absurd rfl hvalue
  | _ => rw [merge_eq_override (.inr rfl), merge_eq_override (.inr rfl)]

end

/-! ## Every path -/

/-- The override has nothing at a proper beginning of the path but objects. -/
def Json.Open (override : Json) (path : List String) : Prop :=
  ∀ front rest value, path = front ++ rest → rest ≠ [] → override.find? front = some value → value.isObject = true

/-- What lies at a path when `override` has been laid over `base`. -/
structure Json.OverlaidAt (base override merged : Json) (path : List String) : Prop where
  value : ∀ x, override.find? path = some x → x.isObject = false → merged.find? path = some x
  object : ∀ x, override.find? path = some x → x.isObject = true →
    (∀ y, base.find? path = some y → y.isObject = false) → merged.find? path = some x
  union : ∀ members overrideMembers, base.find? path = some (.object members) →
    override.find? path = some (.object overrideMembers) → ∃ mergedMembers,
      merged.find? path = some (.object mergedMembers) ∧ ∀ key, (lookup key mergedMembers).isSome =
        ((lookup key members).isSome || (lookup key overrideMembers).isSome)
  kept : ∀ y, base.find? path = some y → override.find? path = none → override.Open path →
    merged.find? path = some y
  nothing : merged.find? path ≠ none →
    override.find? path ≠ none ∨ (base.find? path ≠ none ∧ override.Open path)

section

variable {base override merged : Json} {members overrideMembers : List (String × Json)} {key : String}
  {path : List String}

theorem open_of_lookup_none (h : lookup key overrideMembers = none) :
    (Json.object overrideMembers).Open (key :: path) := by
  intro front rest x hpath _ hx
  cases front with
  | nil =>
      rw [find?_nil] at hx
      obtain rfl := Option.some.inj hx
      rfl
  | cons k front =>
      obtain ⟨rfl, -⟩ := List.cons.inj hpath
      rw [find?_object, h] at hx
      cases hx

/-- Where there is nothing of the base, all is of the override. -/
theorem Json.OverlaidAt.of_override (hmerged : merged.find? path = override.find? path)
    (hbase : base.find? path = none) : OverlaidAt base override merged path where
  value _ hx _ := hmerged.trans hx
  object _ hx _ _ := hmerged.trans hx
  union members _ hbase' _ := by
    rw [hbase] at hbase'
    cases hbase'
  kept y hy _ _ := by
    rw [hbase] at hy
    cases hy
  nothing h := .inl (hmerged ▸ h)

/-- Where there is nothing of the override, and no value above, all is of the base. -/
theorem Json.OverlaidAt.of_base (hmerged : merged.find? path = base.find? path)
    (hoverride : override.find? path = none) (hopen : override.Open path) :
    OverlaidAt base override merged path where
  value x hx _ := by
    rw [hoverride] at hx
    cases hx
  object x hx _ _ := by
    rw [hoverride] at hx
    cases hx
  union _ _ _ hx := by
    rw [hoverride] at hx
    cases hx
  kept _ hy _ _ := hmerged.trans hy
  nothing h := .inr ⟨hmerged ▸ h, hopen⟩

/-- Below a value of the override there is nothing. -/
theorem Json.OverlaidAt.of_value (hvalue : override.isObject = false) :
    OverlaidAt base override override (key :: path) where
  value _ hx _ := hx
  object _ hx _ _ := hx
  union _ _ _ hx := by
    rw [find?_of_not_object hvalue] at hx
    cases hx
  kept _ _ _ hopen := by
    have hobject := hopen [] (key :: path) override rfl (List.cons_ne_nil _ _) (find?_nil _)
    rw [hvalue] at hobject
    cases hobject
  nothing h := absurd (find?_of_not_object hvalue) h

/-- A step down leads from the objects to the members of this name. -/
theorem Json.OverlaidAt.cons {child value : Json} {merged' : Json}
    (hbase : lookup key members = some value) (hoverride : lookup key overrideMembers = some child)
    (hmerged : merged.find? (key :: path) = merged'.find? path) (h : OverlaidAt value child merged' path) :
    OverlaidAt (.object members) (.object overrideMembers) merged (key :: path) := by
  have hb : (Json.object members).find? (key :: path) = value.find? path := by
    rw [find?_object, hbase]
    rfl
  have ho : (Json.object overrideMembers).find? (key :: path) = child.find? path := by
    rw [find?_object, hoverride]
    rfl
  have hopen : (Json.object overrideMembers).Open (key :: path) ↔ child.Open path := by
    constructor
    · intro hopen front rest x hpath hrest hx
      refine hopen (key :: front) rest x (congrArg (key :: ·) hpath) hrest ?_
      rw [find?_object, hoverride]
      exact hx
    · intro hopen front rest x hpath hrest hx
      cases front with
      | nil =>
          rw [find?_nil] at hx
          obtain rfl := Option.some.inj hx
          rfl
      | cons k front =>
          obtain ⟨rfl, rfl⟩ := List.cons.inj hpath
          rw [find?_object, hoverride] at hx
          exact hopen front rest x rfl hrest hx
  constructor
  · rw [ho, hmerged]
    exact h.value
  · rw [hb, ho, hmerged]
    exact h.object
  · rw [hb, ho, hmerged]
    exact h.union
  · rw [hb, ho, hmerged, hopen]
    exact h.kept
  · rw [hb, ho, hmerged, hopen]
    exact h.nothing

/-- The law, by induction on the path. -/
theorem overlaidAt (hoverride : override.Ordered) (path : List String) :
    Json.OverlaidAt base override (mergeConfigurationValue base override) path := by
  induction path generalizing base override with
  | nil =>
      constructor
      · intro x hx hvalue
        rw [find?_nil] at hx ⊢
        obtain rfl := Option.some.inj hx
        rw [merge_eq_override (.inr hvalue)]
      · intro x hx _ hbase
        rw [find?_nil] at hx ⊢
        obtain rfl := Option.some.inj hx
        rw [merge_eq_override (.inl (hbase base (find?_nil base)))]
      · intro members overrideMembers hb ho
        rw [find?_nil] at hb ho
        obtain rfl := Option.some.inj hb
        obtain rfl := Option.some.inj ho
        cases hoverride with
        | object hincreasing hordered =>
            refine ⟨_, by rw [find?_nil, merge_objects], fun key => ?_⟩
            cases h : lookup key overrideMembers with
            | none => rw [lookup_mergeMembers_of_none h, Option.isSome_none, Bool.or_false]
            | some child => rw [lookup_mergeMembers_of_some hincreasing h, Option.isSome_some, Option.isSome_some,
                Bool.or_true]
      · intro y _ ho
        rw [find?_nil] at ho
        cases ho
      · exact fun _ => .inl (by simp)
  | cons key path ih =>
      by_cases hvalue : base.isObject = false ∨ override.isObject = false
      · rw [merge_eq_override hvalue]
        rcases hvalue with hbase | hvalue
        · exact .of_override rfl (find?_of_not_object hbase)
        · exact .of_value hvalue
      · cases base with
        | object members =>
            cases hoverride with
            | @object overrideMembers hincreasing hordered =>
                rw [merge_objects]
                cases hchild : lookup key overrideMembers with
                | none =>
                    refine .of_base ?_ ?_ ?_
                    · rw [find?_object, find?_object, lookup_mergeMembers_of_none hchild]
                    · rw [find?_object, hchild]
                      rfl
                    · exact open_of_lookup_none hchild
                | some child =>
                    have hmerged := @lookup_mergeMembers_of_some members overrideMembers key child hincreasing hchild
                    cases hfound : lookup key members with
                    | none =>
                        rw [hfound] at hmerged
                        refine .of_override ?_ ?_
                        · rw [find?_object, find?_object, hmerged, hchild]
                          rfl
                        · rw [find?_object, hfound]
                          rfl
                    | some value =>
                        rw [hfound] at hmerged
                        refine .cons hfound hchild ?_ (ih (hordered _ (mem_of_lookup hchild)))
                        rw [find?_object, hmerged]
                        rfl
            | _ => exact absurd (.inr rfl) hvalue
        | _ => exact absurd (.inl rfl) hvalue

end

/-! ## The configuration -/

/-- `glz::generic`: a JSON value whose objects are maps. -/
structure Generic where
  value : Json
  ordered : value.Ordered

/-- `MergeConfigurationValue`. -/
def Generic.merge (base override : Generic) : Generic where
  value := mergeConfigurationValue base.value override.value
  ordered := base.ordered.merge override.ordered

/-- **An override is laid over a configuration** at every path, and laying it over a second time changes
nothing. -/
theorem configuration_overlay (base override : Generic) :
    (∀ path, Json.OverlaidAt base.value override.value (base.merge override).value path) ∧
      (base.merge override).merge override = base.merge override := by
  refine ⟨overlaidAt override.ordered, ?_⟩
  have hsame := merge_merge base.ordered override.ordered
  unfold Generic.merge
  simp only [hsame]

/-- The console of the main configuration is switched off, and its level remains. -/
example : mergeConfigurationValue
    (.object [("log", .object [("console", .boolean true), ("level", .string "debug")])])
    (.object [("log", .object [("console", .boolean false)])]) =
      .object [("log", .object [("console", .boolean false), ("level", .string "debug")])] := by
  simp [mergeConfigurationValue, mergeMembers, lookup, assign]

end SomeServer

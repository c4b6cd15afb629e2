import BrainLink.Proofs.Members
import BrainLink.Proofs.Rising
import BrainLink.Proofs.Writing

/-
  Recipes are read back from both kinds of listing, and from
  nothing else.

  Key definitions include:
    * `Recipe.listed`
    * `Recipe.keyed`
    * `Recipe.Unlistable`

  Main statements:
    * `Json.allFields?_map`
    * `Recipe.ofValue?_toValue`
    * `Recipe.ofValueListing?_keyed`
    * `Recipe.ofValueListing?_eq_none_iff`
    * `recipes_of_listing`

  An array lists recipes in its own order. An object lists them
  under names; each name is inserted where it belongs, so the
  order in which the members are written is forgotten.
-/

namespace BrainLink

------------------------------------------------------------
-- Fields
------------------------------------------------------------

section Fields

variable {α β : Type}
variable {read : α → Option β}

/- What is written so that it can be read is read. -/
theorem Json.allFields?_map
    {write : β → α}
    (hRead : ∀ value, read (write value) = some value)
    (values : List β) :
    Json.allFields? read (values.map write) = some values := by
  induction values with
  | nil => rfl
  | cons first rest ih =>
      rw [List.map_cons, Json.allFields?, hRead, ih]

/- One field that is not read is enough to read nothing. -/
theorem Json.allFields?_eq_none_iff
    {fields : List α} :
    Json.allFields? read fields = none ↔
      ∃ field ∈ fields, read field = none := by
  induction fields with
  | nil => simp [Json.allFields?]
  | cons first rest ih =>
      rw [List.exists_mem_cons_iff, ← ih, Json.allFields?]
      cases read first with
      | none => simp
      | some value =>
          cases Json.allFields? read rest with
          | none => simp
          | some values => simp

end Fields

------------------------------------------------------------
-- Recipes
------------------------------------------------------------

/- URLs are read back, with those that are absent. -/
theorem PowerUrls.ofValue?_toValue (urls : PowerUrls) :
    PowerUrls.ofValue? urls.toValue = some urls := by
  rcases urls with ⟨on, off⟩
  cases on <;> cases off <;> rfl

/- They are two texts at most. -/
theorem PowerUrls.legible_toValue
    (urls : PowerUrls)
    (room : Nat) :
    urls.toValue.Legible (room + 1) := by
  have hText (url : Option String) :
      (PowerUrls.optionalValue url).Legible room := by
    cases url with
    | none => exact .null room
    | some text => exact .string room text
  apply Json.Value.Legible.object
  intro member hMember
  simp only [List.mem_cons, List.not_mem_nil, or_false]
    at hMember
  rcases hMember with rfl | rfl
  · exact hText urls.on
  · exact hText urls.off

namespace Recipe

/- A recipe is read back, with all of its texts. -/
theorem ofValue?_toValue (recipe : Recipe) :
    ofValue? recipe.toValue = some recipe := by
  rcases recipe with ⟨uid, name, kind, urls⟩
  cases urls with
  | none => rfl
  | some urls =>
      have hUrls :
          PowerUrls.ofField? (some urls.toValue) =
            some (some urls) := by
        change (PowerUrls.ofValue? urls.toValue).map some = _
        rw [urls.ofValue?_toValue]
        rfl
      simp [ofValue?, toValue, Json.Value.record?,
        Json.assign?, Json.plainText?, Json.Value.text?, hUrls]

/- It holds three texts and the object with its URLs. -/
theorem legible_toValue
    (recipe : Recipe)
    (room : Nat) :
    recipe.toValue.Legible (room + 2) := by
  apply Json.Value.Legible.object
  intro member hMember
  simp only [List.mem_cons, List.not_mem_nil, or_false]
    at hMember
  rcases hMember with rfl | rfl | rfl | rfl
  · exact .string _ _
  · exact .string _ _
  · exact .string _ _
  · cases hUrls : recipe.urls with
    | none => exact .null _
    | some urls => exact urls.legible_toValue room

------------------------------------------------------------
-- Listings
------------------------------------------------------------

/- The array that lists some recipes. -/
def listed (recipes : List Recipe) : Json.Value :=
  .array (recipes.map toValue)

/- The object that lists recipes under their names. -/
def keyed (entries : List (String × Recipe)) : Json.Value :=
  .object (entries.map fun entry => (entry.1, entry.2.toValue))

/-
  A value that is no listing: it is neither an array nor an
  object, or one of its items or members is no recipe.
-/
inductive Unlistable : Json.Value → Prop where
| other
    (value : Json.Value)
    (hArray : ∀ items, value ≠ .array items)
    (hObject : ∀ members, value ≠ .object members) :
    Unlistable value
| item
    (items : List Json.Value)
    (item : Json.Value)
    (hItem : item ∈ items)
    (hNone : ofValue? item = none) :
    Unlistable (.array items)
| member
    (members : List (String × Json.Value))
    (name : String)
    (value : Json.Value)
    (hMember : (name, value) ∈ members)
    (hNone : ofValue? value = none) :
    Unlistable (.object members)

variable {entries members : List (String × Recipe)}

/- Both are legible, whatever the recipes hold. -/
theorem legible_listed (recipes : List Recipe) :
    (listed recipes).Legible Json.deepest := by
  apply Json.Value.Legible.array 126
  intro item hItem
  rcases List.mem_map.mp hItem with ⟨recipe, -, rfl⟩
  exact recipe.legible_toValue 124

theorem legible_keyed (entries : List (String × Recipe)) :
    (keyed entries).Legible Json.deepest := by
  apply Json.Value.Legible.object 126
  intro member hMember
  rcases List.mem_map.mp hMember with ⟨entry, -, rfl⟩
  exact entry.2.legible_toValue 124

/- Recipes with names are read back, each with its own. -/
theorem namedRecipes?_map (entries : List (String × Recipe)) :
    namedRecipes?
        (entries.map fun entry => (entry.1, entry.2.toValue)) =
      some entries := by
  apply Json.allFields?_map
  intro entry
  rw [entry.2.ofValue?_toValue]
  rfl

/- An array lists its items. -/
theorem ofValueListing?_listed (recipes : List Recipe) :
    ofValueListing? (listed recipes) = some recipes :=
  Json.allFields?_map ofValue?_toValue recipes

/- An object lists its members in the order of their names. -/
theorem ofValueListing?_keyed
    (hRising :
      entries.Pairwise fun first second => first.1 < second.1)
    (hMembers : members.Perm entries) :
    ofValueListing? (keyed members) =
      some (entries.map Prod.snd) := by
  have hNames : (members.map Prod.fst).Nodup := by
    apply (hMembers.map Prod.fst).nodup_iff.mpr
    exact
      (List.pairwise_map.mpr hRising).imp fun hBefore =>
        ne_of_lt hBefore
  have hSorted : members.foldr insertNamed [] = entries := by
    -- Two rising lists with the same entries are the same.
    apply (rising_foldr_insertNamed members).eq_of_mem_iff hRising
    intro entry
    rw [mem_foldr_insertNamed hNames, hMembers.mem_iff]
  unfold keyed
  rw [ofValueListing?, namedRecipes?_map, Option.map_some,
    Json.lastMembers_of_nodup hNames, hSorted]

/- A value lists nothing if it is no listing. -/
theorem ofValueListing?_eq_none_iff
    {value : Json.Value} :
    ofValueListing? value = none ↔ Unlistable value := by
  cases value with
  | array items =>
      change Json.allFields? ofValue? items = none ↔ _
      rw [Json.allFields?_eq_none_iff]
      constructor
      · rintro ⟨item, hItem, hNone⟩
        exact .item items item hItem hNone
      · intro hUnlistable
        cases hUnlistable with
        | other _ hArray hObject => exact (hArray items rfl).elim
        | item _ item hItem hNone => exact ⟨item, hItem, hNone⟩
  | object members =>
      change (namedRecipes? members).map _ = none ↔ _
      rw [Option.map_eq_none_iff, namedRecipes?,
        Json.allFields?_eq_none_iff]
      simp only [Option.map_eq_none_iff]
      constructor
      · rintro ⟨⟨name, value⟩, hMember, hNone⟩
        exact .member members name value hMember hNone
      · intro hUnlistable
        cases hUnlistable with
        | other _ hArray hObject =>
            exact (hObject members rfl).elim
        | member _ name value hMember hNone =>
            exact ⟨(name, value), hMember, hNone⟩
  | null => exact ⟨fun _ => .other _ nofun nofun, fun _ => rfl⟩
  | bool value =>
      exact ⟨fun _ => .other _ nofun nofun, fun _ => rfl⟩
  | number numeral =>
      exact ⟨fun _ => .other _ nofun nofun, fun _ => rfl⟩
  | string text =>
      exact ⟨fun _ => .other _ nofun nofun, fun _ => rfl⟩

/- The body of a listing is read by the value it denotes. -/
theorem ofListing_toText
    {value : Json.Value}
    {recipes : List Recipe}
    (hLegible : value.Legible Json.deepest)
    (hListing : ofValueListing? value = some recipes) :
    ofListing value.toText = .ok recipes := by
  unfold ofListing
  rw [hLegible.parse?_toText, Option.bind_some, hListing]

/- A body is no listing if what it denotes is none. -/
theorem ofListing_eq_badJson_iff
    {body : String} :
    ofListing body = .error .badJson ↔
      ∀ value,
        Json.parse? body = some value → Unlistable value := by
  unfold ofListing
  cases hBody : Json.parse? body with
  | none => simp
  | some value =>
      rw [Option.bind_some]
      constructor
      · intro hCause other hOther
        cases hOther
        rw [← ofValueListing?_eq_none_iff]
        cases hListing : ofValueListing? value with
        | none => rfl
        | some recipes =>
            rw [hListing] at hCause
            cases hCause
      · intro hUnlistable
        rw [ofValueListing?_eq_none_iff.mpr
          (hUnlistable value rfl)]

end Recipe

/-
  Recipes are read back from the array that lists them. Under
  names of their own they are read in the order of the names,
  whatever the order of the members. And a body fails to be
  read just if it denotes no value, or one that is no listing.
-/
theorem recipes_of_listing :
    (∀ recipes,
        Recipe.ofListing (Recipe.listed recipes).toText =
          .ok recipes) ∧
      (∀ entries members : List (String × Recipe),
          entries.Pairwise
              (fun first second => first.1 < second.1) →
            members.Perm entries →
              Recipe.ofListing (Recipe.keyed members).toText =
                .ok (entries.map Prod.snd)) ∧
        ∀ body,
          Recipe.ofListing body = .error .badJson ↔
            ∀ value,
              Json.parse? body = some value →
                Recipe.Unlistable value := by
  refine ⟨?_, ?_, ?_⟩
  · intro recipes
    exact
      Recipe.ofListing_toText (Recipe.legible_listed recipes)
        (Recipe.ofValueListing?_listed recipes)
  · intro entries members hRising hMembers
    exact
      Recipe.ofListing_toText (Recipe.legible_keyed members)
        (Recipe.ofValueListing?_keyed hRising hMembers)
  · intro body
    exact Recipe.ofListing_eq_badJson_iff

/- A recipe with one of two URLs, and one without any. -/
namespace Sample

def television : Recipe where
  uid := "6242-abc"
  name := "Café \"Soirée\" 📺"
  kind := "launch"
  urls := some ⟨some "/v1/api/recipes/6242/execute", none⟩

def radio : Recipe where
  uid := "7001"
  name := ""
  kind := "launch"
  urls := none

end Sample

/- Both recipes, in an array, under their names, and no text. -/
theorem recipes_of_evening :
    Recipe.ofListing
          (Recipe.listed
            [Sample.radio, Sample.television]).toText =
        .ok [Sample.radio, Sample.television] ∧
      Recipe.ofListing
            (Recipe.keyed
              [ ("7001", Sample.radio),
                ("6242", Sample.television) ]).toText =
          .ok [Sample.television, Sample.radio] ∧
        Recipe.ofListing (Json.Value.string "radio").toText =
          .error .badJson := by
  rcases recipes_of_listing with ⟨hArray, hObject, hFails⟩
  refine ⟨hArray _, ?_, ?_⟩
  · exact
      hObject
        [("6242", Sample.television), ("7001", Sample.radio)]
        _ (by decide) (List.Perm.swap _ _ [])
  · apply (hFails _).mpr
    intro value hValue
    have hText : (Json.Value.string "radio").Legible 127 :=
      .string _ _
    cases hText.parse?_toText.symm.trans hValue
    exact .other _ nofun nofun

end BrainLink

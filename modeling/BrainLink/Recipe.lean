import BrainLink.DeviceKeys
import BrainLink.Text.Blank

/-
  Recipes: what a brain can switch on and off, and the URLs
  that do it.

  Key definitions include:
    * `Recipe`
    * `Recipe.action?`
    * `Recipe.toValue`
    * `Recipe.ofValue?`
    * `Recipe.ofListing`
    * `Recipe.find?`
    * `resolveAction`
-/

namespace BrainLink

/- The URLs that switch a recipe on and off. -/
structure PowerUrls where
  on : Option String
  off : Option String
deriving DecidableEq, Repr

/- A recipe as a brain lists it. -/
structure Recipe where
  uid : String
  name : String
  kind : String
  urls : Option PowerUrls
deriving DecidableEq, Repr

------------------------------------------------------------
-- Power URLs
------------------------------------------------------------

namespace PowerUrls

/- A text or null. -/
def optionalValue : Option String → Json.Value
| none => .null
| some text => .string text

/- The URLs as a JSON value. -/
def toValue (urls : PowerUrls) : Json.Value :=
  .object
    [ ("setPowerOn", optionalValue urls.on),
      ("setPowerOff", optionalValue urls.off) ]

/- The URLs that a JSON value holds. -/
def ofValue? (value : Json.Value) : Option PowerUrls :=
  match value.record? ["setPowerOn", "setPowerOff"] with
  | some [on, off] =>
      match Json.optionalText? on, Json.optionalText? off with
      | some on, some off => some ⟨on, off⟩
      | _, _ => none
  | _ => none

/- The URLs of a field that may be null or left out. -/
def ofField? : Option Json.Value → Option (Option PowerUrls)
| none => some none
| some .null => some none
| some value => (ofValue? value).map some

end PowerUrls

------------------------------------------------------------
-- Recipes
------------------------------------------------------------

namespace Recipe

/- The URL that switches a recipe; a blank one counts not. -/
def action? (recipe : Recipe) (on : Bool) : Option String :=
  match recipe.urls with
  | none => none
  | some urls =>
      (if on then urls.on else urls.off).filter
        fun url => !Text.isBlankText url

/- The recipe as a JSON value. -/
def toValue (recipe : Recipe) : Json.Value :=
  .object
    [ ("uid", .string recipe.uid),
      ("name", .string recipe.name),
      ("type", .string recipe.kind),
      ( "urls",
        match recipe.urls with
        | none => .null
        | some urls => urls.toValue ) ]

/- The recipe that a JSON value holds. -/
def ofValue? (value : Json.Value) : Option Recipe :=
  match value.record? ["uid", "name", "type", "urls"] with
  | some [uid, name, kind, urls] =>
      match Json.plainText? uid, Json.plainText? name,
          Json.plainText? kind, PowerUrls.ofField? urls with
      | some uid, some name, some kind, some urls =>
          some ⟨uid, name, kind, urls⟩
      | _, _, _, _ => none
  | _ => none

/- Put a named recipe into a rising list of distinct names. -/
def insertNamed
    (entry : String × Recipe) :
    List (String × Recipe) → List (String × Recipe)
| [] => [entry]
| first :: rest =>
    if entry.1 < first.1 then
      entry :: first :: rest
    else if entry.1 = first.1 then
      first :: rest
    else
      first :: insertNamed entry rest

/- Each member as a named recipe, if all of them are. -/
def namedRecipes? :
    List (String × Json.Value) →
      Option (List (String × Recipe)) :=
  Json.allFields? fun member =>
    (ofValue? member.2).map fun recipe => (member.1, recipe)

/-
  The recipes that a JSON value lists: the items of an array,
  or the members of an object in the order of their names.
-/
def ofValueListing? : Json.Value → Option (List Recipe)
| .array items => Json.allFields? ofValue? items
| .object members =>
    (namedRecipes? members).map fun entries =>
      ((Json.lastMembers entries).foldr insertNamed []).map
        Prod.snd
| _ => none

/- The recipes that the body of a listing holds. -/
def ofListing (body : String) : Outcome (List Recipe) :=
  match (Json.parse? body).bind ofValueListing? with
  | none => .error .badJson
  | some recipes => .ok recipes

/- The recipes of the answer to the listing request. -/
def ofAnswer (answer : Http.Answer) : Outcome (List Recipe) :=
  match Http.accept answer with
  | .error cause => .error cause
  | .ok body => ofListing body

/- The first recipe with a uid, the case of letters aside. -/
def find? (recipes : List Recipe) (uid : String) :
    Option Recipe :=
  recipes.find? fun recipe => Text.sameLetters recipe.uid uid

/- The place of that recipe in the listing. -/
def position? (recipes : List Recipe) (uid : String) :
    Option Nat :=
  recipes.findIdx? fun recipe => Text.sameLetters recipe.uid uid

end Recipe

/- An action that starts with a slash goes to the brain. -/
def resolveAction (brainUrl : String) (action : String) :
    String :=
  match action.toList with
  | '/' :: _ => brainUrl ++ action
  | _ => action

end BrainLink

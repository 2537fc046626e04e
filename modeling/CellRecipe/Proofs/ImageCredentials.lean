import CellRecipe.Proofs.RunSelection

/-!
# Images and the credentials for them

A droplet from an image may have the image and credentials recorded, and its request may hold an
image and credentials as well. What was recorded goes before what the request has, and this is
decided twice: once for the image, which becomes the root filesystem, and once for the credentials.
The two decisions do not look at each other. So an image and the credentials for it may come from
two sources, and then a registry is given credentials that were meant for another one.

This happens to a recorded image exactly when no credentials were recorded with it and the request
has some.

## Main definitions

* `Recipe.HasLogin`: the credentials that a recipe has for its image.
* `Recipe.OneSource`: image and credentials come from the same source.

## Main results

* `Recipe.hasLogin_unique`: the credentials can be told from the recipe.
* `Droplet.loginOver_eq_recorded`: when the credentials are those that were recorded.
* `Recipe.ofRun_login`: the image and the credentials of a recipe, and when they have one source.
-/

namespace CellRecipe

namespace Droplet

theorem loginOver_of_some {d : Droplet} (h : d.receiptCredentials ≠ none)
    (credentials : Option ImageCredentials) :
    d.loginOver credentials = d.receiptCredentials := by
  obtain ⟨recorded, h⟩ := Option.ne_none_iff_exists'.1 h
  unfold loginOver
  rw [h]

theorem loginOver_of_none {d : Droplet} (h : d.receiptCredentials = none)
    (credentials : Option ImageCredentials) : d.loginOver credentials = credentials := by
  unfold loginOver
  rw [h]

/-- Only the recorded credentials count, if there are some or if the request has none. -/
theorem loginOver_eq_recorded {d : Droplet} {credentials : Option ImageCredentials} :
    d.loginOver credentials = d.receiptCredentials
      ↔ d.receiptCredentials ≠ none ∨ credentials = none := by
  by_cases h : d.receiptCredentials = none
  · rw [loginOver_of_none h, h]
    simp
  · simp [loginOver_of_some h, h]

end Droplet

namespace Recipe

/-- The recipe has these credentials for its image. -/
def HasLogin (credentials : Option ImageCredentials) (r : Recipe) : Prop :=
  r.imageUsername = credentials.map (·.username) ∧
    r.imagePassword = credentials.map (·.password)

theorem hasLogin_unique {r : Recipe} {c c' : Option ImageCredentials} (h : r.HasLogin c)
    (h' : r.HasLogin c') : c = c' := by
  have husername := h.1.symm.trans h'.1
  have hpassword := h.2.symm.trans h'.2
  rcases c with _ | ⟨username, password⟩ <;> rcases c' with _ | ⟨username', password'⟩ <;>
    simp_all

/-- The image of the recipe and the credentials for it come from the same source: a recorded image
has the recorded credentials or none, and the request's own credentials are for its own image. -/
structure OneSource (d : Droplet) (credentials : Option ImageCredentials) (r : Recipe) : Prop where
  recorded : d.receiptImage ≠ none → r.HasLogin d.receiptCredentials
  requested : r.HasLogin credentials → d.receiptCredentials ≠ credentials → d.receiptImage = none

/-- A recipe whose credentials are decided apart from its image has one source for both in all cases
but one. -/
theorem oneSource_iff {d : Droplet} {credentials : Option ImageCredentials} {r : Recipe}
    (h : r.HasLogin (d.loginOver credentials)) :
    r.OneSource d credentials
      ↔ d.receiptImage = none ∨ d.receiptCredentials ≠ none ∨ credentials = none := by
  rw [← Droplet.loginOver_eq_recorded]
  constructor
  · intro hsource
    by_cases himage : d.receiptImage = none
    · exact .inl himage
    · exact .inr (hasLogin_unique h (hsource.recorded himage))
  · intro hcases
    rcases hcases with himage | hlogin
    · exact ⟨fun hrecorded => absurd himage hrecorded, fun _ _ => himage⟩
    · refine ⟨fun _ => hlogin ▸ h, ?_⟩
      intro hrequested hother
      -- The recorded credentials are those of the recipe, so they would be the request's own.
      have hsame : d.receiptCredentials = credentials :=
        hlogin.symm.trans (hasLogin_unique h hrequested)
      exact absurd hsame hother

variable {settings : Settings} {request : RunRequest} {recipe : Recipe} {asked : Option String}
  {credentials : Option ImageCredentials}

/-- The credentials of a recipe are the recorded ones, or else those of the request. -/
theorem hasLogin_of_ofRun_eq_ok (hl : request.lifecycle = .docker asked credentials)
    (h : ofRun settings request = .ok recipe) :
    recipe.HasLogin (request.selected.1.loginOver credentials) := by
  have hlaunches := launches_of_ofRun_eq_ok h
  have hlogin : Launch.credentialsOver request.lifecycle request.selected.1
      = request.selected.1.loginOver credentials := by
    rw [hl, Launch.credentialsOver]
  rw [← hlogin]
  exact ⟨hlaunches.username, hlaunches.password⟩

/--
**The image and the credentials for it are decided apart.** The root filesystem is the recorded
image or else the request's own, and the credentials are the recorded ones or else the request's
own. They come from the same source unless the image is recorded without credentials and the request
has some.
-/
theorem ofRun_login (hl : request.lifecycle = .docker asked credentials)
    (h : ofRun settings request = .ok recipe) :
    (∃ image reference, request.selected.1.imageOver asked = some image ∧
      ImageReference.parse image = .ok reference ∧ recipe.rootFs = reference.text) ∧
    recipe.HasLogin (request.selected.1.loginOver credentials) ∧
    (recipe.OneSource request.selected.1 credentials ↔
      request.selected.1.receiptImage = none ∨
        request.selected.1.receiptCredentials ≠ none ∨ credentials = none) := by
  have hlogin := hasLogin_of_ofRun_eq_ok hl h
  exact ⟨(launches_of_ofRun_eq_ok h).root asked credentials hl, hlogin, oneSource_iff hlogin⟩

/-- A run of an image with credentials that were recorded with it. -/
theorem ofRun_login_rolledBack :
    rolledBack.lifecycle = .docker (some "team/app") none ∧
    ∃ recipe, ofRun imageSettings rolledBack = .ok recipe ∧
      recipe.HasLogin (some ⟨"reader", "secret"⟩) ∧
      recipe.OneSource rolledBack.selected.1 none := by
  have hserved : ∃ recipe, ofRun imageSettings rolledBack = .ok recipe := ⟨_, rfl⟩
  obtain ⟨recipe, h⟩ := hserved
  obtain ⟨-, hlogin, hsource⟩ := ofRun_login rfl h
  exact ⟨rfl, recipe, h, hlogin, hsource.2 (.inr (.inr rfl))⟩

/-- The same app, where no credentials were recorded and the request has some for its own image. -/
def lentLogin : RunRequest :=
  { rolledBack with
    lifecycle := .docker (some "team/app") (some ⟨"writer", "hidden"⟩)
    revision := none
    droplet := { pastDroplet with receiptCredentials := none } }

/-- The credentials of a request may be used for an image that is not its own. -/
theorem not_all_oneSource :
    ¬ ∀ (settings : Settings) (request : RunRequest) (asked : Option String)
        (credentials : Option ImageCredentials) (recipe : Recipe),
        request.lifecycle = .docker asked credentials → ofRun settings request = .ok recipe →
          recipe.OneSource request.selected.1 credentials := by
  intro hall
  have hserved : ∃ recipe, ofRun imageSettings lentLogin = .ok recipe := ⟨_, rfl⟩
  obtain ⟨recipe, h⟩ := hserved
  have hlogin := hasLogin_of_ofRun_eq_ok rfl h
  rcases (oneSource_iff hlogin).1 (hall _ _ _ _ _ rfl h) with himage | hrecorded | hnone
  · cases himage
  · exact hrecorded rfl
  · cases hnone

end Recipe

end CellRecipe

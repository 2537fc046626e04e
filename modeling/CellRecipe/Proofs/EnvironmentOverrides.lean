import CellRecipe.Proofs.Numerals
import CellRecipe.Settings.Environment

/-!
# What an environment overrides

Each of eight settings is read from a variable of its own, and a variable whose text is not of the
setting's kind counts as if it were not set. What a text stands for is said here by what is written
in it: a numeral in decimal with the signs that its kind allows, one of the two words for a flag,
and any text at all for a text. The range of a numeral is that of the values of its kind.

The settings are one family: a name, a kind, and the place of the value. What is said of them is
said once, and only the names and the places are looked at one by one.

## Main definitions

* `Settings.Kind`: kinds of values, with the texts that `Denotes` them.
* `Settings.Overridable`: the settings that have a variable.
* `Settings.Becomes`: what a setting may be after its variable has been looked at.
* `Settings.SameRest`: settings that agree in everything that has no variable.

## Main results

* `Settings.Kind.read?_eq_some_iff`: the readers accept the texts that denote a value.
* `Settings.overridden_eq_iff`: one override.
* `Settings.override_exact`: the overrides of an environment.
-/

namespace CellRecipe.Settings

/-! ## Kinds -/

/-- The kinds of settings that have a variable. -/
inductive Kind where
  | text
  | word16
  | word64
  | int32
  | flag
  deriving DecidableEq

namespace Kind

/-- The values of a kind. -/
abbrev Value : Kind → Type
  | .text => String
  | .word16 => UInt16
  | .word64 => UInt64
  | .int32 => Int32
  | .flag => Bool

/-- The reader of a kind. -/
def read? : (kind : Kind) → String → Option kind.Value
  | .text => some
  | .word16 => word16?
  | .word64 => word64?
  | .int32 => int32?
  | .flag => flag?

/-- The texts that stand for a value. -/
def Denotes : (kind : Kind) → String → kind.Value → Prop
  | .text, s, value => s = value
  | .word16, s, value => Text.Unsigned s.toList value.toNat
  | .word64, s, value => Text.Unsigned s.toList value.toNat
  | .int32, s, value => Text.Signed s.toList value.toInt
  | .flag, s, value => s = flagText value

end Kind

theorem naturalUpTo?_eq_some_iff {high n : Nat} {s : String} :
    naturalUpTo? high s = some n ↔ Text.Unsigned s.toList n ∧ n ≤ high := by
  rw [naturalUpTo?, Option.filter_eq_some_iff, Text.natural?_eq_some_iff_unsigned,
    decide_eq_true_iff]

/-- Words are read from the numerals of their numbers, whatever their size. -/
theorem map_naturalUpTo?_eq_some_iff {α : Type} {high : Nat} {ofNat : Nat → α} {toNat : α → Nat}
    (hofNat : ∀ n ≤ high, toNat (ofNat n) = n) (htoNat : ∀ w, ofNat (toNat w) = w)
    (hle : ∀ w, toNat w ≤ high) {s : String} {w : α} :
    (naturalUpTo? high s).map ofNat = some w ↔ Text.Unsigned s.toList (toNat w) := by
  rw [Option.map_eq_some_iff]
  constructor
  · rintro ⟨n, hread, rfl⟩
    obtain ⟨numeral, hn⟩ := naturalUpTo?_eq_some_iff.1 hread
    rwa [hofNat n hn]
  · intro numeral
    exact ⟨toNat w, naturalUpTo?_eq_some_iff.2 ⟨numeral, hle w⟩, htoNat w⟩

theorem word16?_eq_some_iff {s : String} {w : UInt16} :
    word16? s = some w ↔ Text.Unsigned s.toList w.toNat := by
  apply map_naturalUpTo?_eq_some_iff
  · exact fun n hn => UInt16.toNat_ofNat_of_lt (Nat.lt_of_le_pred (by decide) hn)
  · exact fun w => UInt16.ofNat_toNat
  · exact fun w => Nat.le_pred_of_lt w.toNat_lt

theorem word64?_eq_some_iff {s : String} {w : UInt64} :
    word64? s = some w ↔ Text.Unsigned s.toList w.toNat := by
  apply map_naturalUpTo?_eq_some_iff
  · exact fun n hn => UInt64.toNat_ofNat_of_lt (Nat.lt_of_le_pred (by decide) hn)
  · exact fun w => UInt64.ofNat_toNat
  · exact fun w => Nat.le_pred_of_lt w.toNat_lt

theorem int32?_eq_some_iff {s : String} {i : Int32} :
    int32? s = some i ↔ Text.Signed s.toList i.toInt := by
  rw [int32?, Option.map_eq_some_iff]
  simp only [Option.filter_eq_some_iff, Text.integer?_eq_some_iff_signed, Bool.and_eq_true,
    decide_eq_true_iff]
  constructor
  · rintro ⟨n, ⟨numeral, hlow, hhigh⟩, rfl⟩
    have hn : (Int32.ofInt n).toInt = n :=
      Int32.toInt_ofInt_of_le hlow (Int.lt_add_one_of_le hhigh)
    rwa [hn]
  · intro numeral
    exact ⟨i.toInt, ⟨numeral, i.minValue_le_toInt, i.toInt_le⟩, Int32.ofInt_toInt i⟩

theorem flag?_eq_some_iff {s : String} {b : Bool} : flag? s = some b ↔ s = flagText b := by
  have hwords : ("true" : String) ≠ "false" := by decide
  unfold flag? flagText
  split
  · next htrue =>
      subst htrue
      cases b <;> simp [hwords]
  · next htrue =>
      split
      · next hfalse =>
          subst hfalse
          cases b <;> simp [hwords.symm]
      · next hfalse => cases b <;> simp [htrue, hfalse]

/-- The readers accept the texts that denote a value, and find that value. -/
theorem Kind.read?_eq_some_iff {kind : Kind} {s : String} {value : kind.Value} :
    kind.read? s = some value ↔ kind.Denotes s value := by
  cases kind with
  | text => exact Option.some_inj
  | word16 => exact word16?_eq_some_iff
  | word64 => exact word64?_eq_some_iff
  | int32 => exact int32?_eq_some_iff
  | flag => exact flag?_eq_some_iff

/-! ## One override -/

/-- What a setting may be after its variable has been looked at: the value that the variable's text
denotes, or the old value where the variable is not set or its text denotes none. -/
inductive Becomes (environment : Environment) (name : String) {kind : Kind} (old : kind.Value) :
    kind.Value → Prop
  | set {s : String} {new : kind.Value} (isSet : environment name = some s)
      (denotes : kind.Denotes s new) : Becomes environment name old new
  | kept (without : ∀ s, environment name = some s → ∀ value, ¬ kind.Denotes s value) :
      Becomes environment name old old

theorem bind_read?_eq_some_iff {environment : Environment} {name : String} {kind : Kind}
    {value : kind.Value} : (environment name).bind kind.read? = some value
      ↔ ∃ s, environment name = some s ∧ kind.Denotes s value := by
  simp only [Option.bind_eq_some_iff, Kind.read?_eq_some_iff]

/-- A setting becomes what its variable denotes, and stays as it is where that is nothing. -/
theorem overridden_eq_iff {environment : Environment} {name : String} {kind : Kind}
    {old new : kind.Value} :
    overridden environment name kind.read? old = new ↔ Becomes environment name old new := by
  unfold overridden
  cases hread : (environment name).bind kind.read? with
  | none =>
      have hnothing : ∀ s, environment name = some s → ∀ value, ¬ kind.Denotes s value := by
        intro s hs value denotes
        rw [bind_read?_eq_some_iff.2 ⟨s, hs, denotes⟩] at hread
        cases hread
      constructor
      · rintro rfl
        exact .kept hnothing
      · rintro (⟨isSet, denotes⟩ | -)
        · exact absurd denotes (hnothing _ isSet _)
        · rfl
  | some value =>
      obtain ⟨s, isSet, denotes⟩ := bind_read?_eq_some_iff.1 hread
      constructor
      · rintro rfl
        exact .set isSet denotes
      · rintro (⟨isSet', denotes'⟩ | without)
        · rw [bind_read?_eq_some_iff.2 ⟨_, isSet', denotes'⟩] at hread
          exact (Option.some.inj hread).symm
        · exact absurd denotes (without s isSet value)

/-- Overriding again changes nothing. -/
theorem overridden_overridden {α : Type} {environment : Environment} {name : String}
    {value : String → Option α} {old : α} :
    overridden environment name value (overridden environment name value old)
      = overridden environment name value old := by
  unfold overridden
  cases (environment name).bind value <;> rfl

/-! ## All overrides -/

/-- The settings that have a variable. -/
inductive Overridable where
  | hostname
  | tlsPort
  | timeoutSeconds
  | pidLimit
  | privilegedStaging
  | privilegedRunning
  | fileServerUrl
  | declarativeAssets
  deriving DecidableEq

namespace Overridable

/-- The variable of a setting. -/
def variableName : Overridable → String
  | hostname => "RECIPE_INTERNAL_SERVICE_HOSTNAME"
  | tlsPort => "RECIPE_TLS_PORT"
  | timeoutSeconds => "RECIPE_STAGING_TIMEOUT"
  | pidLimit => "RECIPE_PID_LIMIT"
  | privilegedStaging => "RECIPE_PRIVILEGED_STAGING"
  | privilegedRunning => "RECIPE_PRIVILEGED_RUNNING"
  | fileServerUrl => "RECIPE_FILE_SERVER_URL"
  | declarativeAssets => "RECIPE_DECLARATIVE_ASSETS"

/-- The kind of a setting. -/
abbrev kind : Overridable → Kind
  | hostname => .text
  | tlsPort => .word16
  | timeoutSeconds => .word64
  | pidLimit => .int32
  | privilegedStaging => .flag
  | privilegedRunning => .flag
  | fileServerUrl => .text
  | declarativeAssets => .flag

/-- The value of a setting. -/
def value (settings : Settings) : (setting : Overridable) → setting.kind.Value
  | hostname => settings.hostname
  | tlsPort => settings.tlsPort
  | timeoutSeconds => settings.timeoutSeconds
  | pidLimit => settings.pidLimit
  | privilegedStaging => settings.privilegedStaging
  | privilegedRunning => settings.privilegedRunning
  | fileServerUrl => settings.fileServerUrl
  | declarativeAssets => settings.declarativeAssets

/-- No two settings have the same variable. -/
theorem variableName_injective : Function.Injective variableName := by
  intro a b h
  cases a <;> cases b <;> first | rfl | exact absurd h (by decide)

end Overridable

/-- Settings that agree in everything that has no variable. -/
structure SameRest (s t : Settings) : Prop where
  bundles : s.bundles = t.bundles
  dockerStagingStack : s.dockerStagingStack = t.dockerStagingStack
  skipCertVerify : s.skipCertVerify = t.skipCertVerify
  insecureRegistries : s.insecureRegistries = t.insecureRegistries
  openFilesLimit : s.openFilesLimit = t.openFilesLimit
  trustedCertificatesPath : s.trustedCertificatesPath = t.trustedCertificatesPath

variable {e e' : Environment} {s s' t : Settings}

/-- The settings with a variable and the rest are all there is. -/
theorem eq_of_values (hvalues : ∀ setting : Overridable, setting.value s = setting.value t)
    (hrest : SameRest s t) : s = t := by
  have hhostname := hvalues .hostname
  have htlsPort := hvalues .tlsPort
  have htimeoutSeconds := hvalues .timeoutSeconds
  have hpidLimit := hvalues .pidLimit
  have hprivilegedStaging := hvalues .privilegedStaging
  have hprivilegedRunning := hvalues .privilegedRunning
  have hfileServerUrl := hvalues .fileServerUrl
  have hdeclarativeAssets := hvalues .declarativeAssets
  obtain ⟨hbundles, hstack, hskip, hregistries, hfiles, hcertificates⟩ := hrest
  cases s
  cases t
  simp only [Overridable.value] at *
  subst_vars
  rfl

/-- Each setting is overridden by its own variable. -/
theorem value_override (setting : Overridable) :
    setting.value (s.override e)
      = overridden e setting.variableName setting.kind.read? (setting.value s) := by
  cases setting <;> rfl

theorem sameRest_override : SameRest s (s.override e) := ⟨rfl, rfl, rfl, rfl, rfl, rfl⟩

theorem override_eq_iff : s.override e = t ↔
    (∀ setting : Overridable,
      Becomes e setting.variableName (setting.value s) (setting.value t)) ∧ SameRest s t := by
  constructor
  · rintro rfl
    exact ⟨fun setting => overridden_eq_iff.1 (value_override setting).symm, sameRest_override⟩
  · rintro ⟨hvalues, hrest⟩
    refine eq_of_values (fun setting => ?_) ?_
    · rw [value_override, overridden_eq_iff]
      exact hvalues setting
    · exact ⟨hrest.bundles, hrest.dockerStagingStack, hrest.skipCertVerify,
        hrest.insecureRegistries, hrest.openFilesLimit, hrest.trustedCertificatesPath⟩

theorem override_override : (s.override e).override e = s.override e := by
  refine eq_of_values (fun setting => ?_) ⟨rfl, rfl, rfl, rfl, rfl, rfl⟩
  rw [value_override, value_override, overridden_overridden]

/-- Only its own variable and its old value matter to a setting. -/
theorem value_override_congr {setting : Overridable}
    (hvariable : e setting.variableName = e' setting.variableName)
    (hvalue : setting.value s = setting.value s') :
    setting.value (s.override e) = setting.value (s'.override e') := by
  rw [value_override, value_override, hvalue]
  unfold overridden
  rw [hvariable]

/--
**Overrides are exact, idempotent and independent.** The settings with the overrides of an
environment are those where each setting that has a variable has become what its variable says and
the rest is the same. Overriding again changes nothing. What a setting becomes depends on its own
variable and its own old value alone, so a change of one variable changes one setting at most.
-/
theorem override_exact (e : Environment) (s : Settings) :
    (∀ t, s.override e = t ↔
      (∀ setting : Overridable,
        Becomes e setting.variableName (setting.value s) (setting.value t)) ∧ SameRest s t) ∧
    (s.override e).override e = s.override e ∧
    (∀ e' s' (setting : Overridable), e setting.variableName = e' setting.variableName →
      setting.value s = setting.value s' →
      setting.value (s.override e) = setting.value (s'.override e')) ∧
    ∀ e' (changed : Overridable),
      (∀ name, name ≠ changed.variableName → e name = e' name) →
      SameRest (s.override e) (s.override e') ∧
      ∀ setting, setting ≠ changed →
        setting.value (s.override e) = setting.value (s.override e') := by
  refine ⟨fun t => override_eq_iff, override_override,
    fun e' s' setting hvariable hvalue => value_override_congr hvariable hvalue, ?_⟩
  intro e' changed hsame
  refine ⟨⟨rfl, rfl, rfl, rfl, rfl, rfl⟩, fun setting hne => value_override_congr ?_ rfl⟩
  exact hsame _ fun h => hne (Overridable.variableName_injective h)

/-- Variables of all kinds, one of them without a value of its kind. -/
def mixedEnvironment : Environment := fun name =>
  [("RECIPE_INTERNAL_SERVICE_HOSTNAME", "cc.internal"), ("RECIPE_TLS_PORT", "+09443"),
    ("RECIPE_STAGING_TIMEOUT", "120"), ("RECIPE_PRIVILEGED_RUNNING", "true"),
    ("RECIPE_PID_LIMIT", "not-a-number")].lookup name

/-- What is written is overridden, and the limit without a number is kept. -/
theorem override_exact_mixed :
    standard.override mixedEnvironment
      = { standard with
          hostname := "cc.internal"
          tlsPort := 9443
          timeoutSeconds := 120
          privilegedRunning := true } := by
  rw [(override_exact mixedEnvironment standard).1]
  refine ⟨fun setting => ?_, ⟨rfl, rfl, rfl, rfl, rfl, rfl⟩⟩
  have hport : Text.Digits "09443".toList := .of_all (by decide) rfl
  have htimeout : Text.Digits "120".toList := .of_all (by decide) rfl
  cases setting with
  | hostname => exact .set rfl rfl
  | tlsPort => exact .set rfl (.plus hport)
  | timeoutSeconds => exact .set rfl (.bare htimeout)
  | privilegedRunning => exact .set rfl rfl
  | pidLimit =>
      refine .kept fun s hs value denotes => ?_
      obtain rfl : "not-a-number" = s := Option.some.inj hs
      rw [← Kind.read?_eq_some_iff] at denotes
      cases denotes
  | privilegedStaging => exact .kept fun s hs => by cases hs
  | fileServerUrl => exact .kept fun s hs => by cases hs
  | declarativeAssets => exact .kept fun s hs => by cases hs

end CellRecipe.Settings

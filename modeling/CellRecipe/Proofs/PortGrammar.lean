import CellRecipe.Proofs.EgressOrder
import CellRecipe.Proofs.Numerals
import CellRecipe.Proofs.RecipeIdentity

/-!
# The grammar of ports

The ports of a stored rule are one text: single ports with commas between them, or the two ends of a
range with a hyphen between them. A port is a decimal numeral, with any number of leading zeros and
perhaps a plus sign, and blanks around it do not count. Neither a hyphen nor a comma can be a part
of a port, so the first hyphen decides which of the two forms a text has, and what is behind it has
to be one port.

The reader computes the number of a numeral digit by digit, however long it is. In the grammar a
numeral has the number that its digits have by their places, and ports are those from 1 to 65535.

## Main definitions

* `EgressRule.Token`: a port as it is written.
* `EgressRule.Spelled`: the texts that the grammar has for ports.
* `EgressRule.Faulty`: the texts that it has not, each with what is wrong with it first.

## Main results

* `EgressRule.portChoice?_eq_ok_iff`: the reader accepts what the grammar spells.
* `EgressRule.portChoice?_eq_error_iff`: the fault of every other text.
* `EgressRule.Spelled.valid`: what is spelled can be the ports of a rule.
* `EgressRule.spelled_text`: ports that are written in decimal are spelled by the grammar.
* `EgressRule.ofRule_reads_ports`: the ports of rules for `tcp` and `udp`.
-/

namespace CellRecipe

open Outcome

namespace EgressRule

/-! ## Tokens -/

/-- A port as it is written: a numeral, perhaps with a plus sign, with blanks around it. -/
inductive Token (cs : List Char) (port : UInt32) : Prop
  | written {sign digits : List Char} (stripped : Text.Stripped cs (sign ++ digits))
      (signed : sign = [] ∨ sign = ['+']) (nonempty : digits ≠ [])
      (each : ∀ c ∈ digits, '0' ≤ c ∧ c ≤ '9') (value : Text.placeValue digits = port.toNat)
      (positive : 1 ≤ port.toNat) (bounded : port.toNat ≤ 65535)

theorem Token.bounds {cs : List Char} {port : UInt32} (h : Token cs port) :
    1 ≤ port.toNat ∧ port.toNat ≤ 65535 := by
  cases h with
  | written _ _ _ _ _ positive bounded => exact ⟨positive, bounded⟩

/-- A port is made of blanks, digits and plus signs. -/
theorem Token.char {cs : List Char} {port : UInt32} (h : Token cs port) {c : Char} (hc : c ∈ cs) :
    Text.isBlank c = true ∨ c = '+' ∨ '0' ≤ c ∧ c ≤ '9' := by
  cases h with
  | written stripped signed _ each =>
      obtain ⟨before, after, rfl, hbefore, hafter⟩ := stripped.around
      simp only [List.mem_append] at hc
      rcases hc with (hc | hc | hc) | hc
      · exact .inl (hbefore c hc)
      · rcases signed with rfl | rfl
        · cases hc
        · exact .inr (.inl (List.mem_singleton.1 hc))
      · exact .inr (.inr (each c hc))
      · exact .inl (hafter c hc)

/-- No separator is a part of a port. -/
theorem Token.not_mem {cs : List Char} {port : UInt32} (h : Token cs port) :
    '-' ∉ cs ∧ ',' ∉ cs := by
  constructor
  · intro hc
    exact absurd (h.char hc) (by decide)
  · intro hc
    exact absurd (h.char hc) (by decide)

theorem port?_eq_ok_iff {cs : List Char} {port : UInt32} : port? cs = .ok port ↔ Token cs port := by
  constructor
  · intro h
    simp only [port?] at h
    split at h
    · next n hread =>
        split at h
        · next hbounds =>
            obtain rfl := Except.ok.inj h
            have hn : (UInt32.ofNat n).toNat = n := by
              rw [UInt32.toNat_ofNat']
              omega
            obtain ⟨sign, digits, hcs, signed, nonempty, each, value⟩ :=
              Text.natural?_eq_some_iff.1 hread
            refine .written (Text.stripped_iff.2 hcs) signed nonempty each ?_ ?_ ?_
            · rw [hn, value]
            · omega
            · omega
        · cases h
    · cases h
  · rintro ⟨stripped, signed, nonempty, each, value, positive, bounded⟩
    have hread : Text.natural? (Text.trimChars cs) = some port.toNat :=
      Text.natural?_eq_some_iff.2
        ⟨_, _, Text.stripped_iff.1 stripped, signed, nonempty, each, value⟩
    unfold port?
    simp only [hread]
    rw [if_pos ⟨positive, bounded⟩, UInt32.ofNat_toNat]

/-- What is no port is at fault itself, without the blanks around it. -/
theorem port?_eq_error_iff {cs : List Char} {fault : Fault} : port? cs = .error fault ↔
    (¬ ∃ port, Token cs port) ∧ ∃ t, Text.Stripped cs t ∧ fault = .badPort (.ofList t) := by
  have hfault : ∀ f, port? cs = .error f → f = .badPort (.ofList (Text.trimChars cs)) := by
    intro f h
    simp only [port?] at h
    split at h
    · split at h
      · cases h
      · exact (Except.error.inj h).symm
    · exact (Except.error.inj h).symm
  constructor
  · intro h
    refine ⟨?_, _, Text.stripped_trimChars cs, hfault fault h⟩
    rintro ⟨port, token⟩
    rw [port?_eq_ok_iff.2 token] at h
    cases h
  · rintro ⟨notToken, t, stripped, rfl⟩
    obtain rfl := Text.stripped_iff.1 stripped
    cases h : port? cs with
    | ok port => exact absurd ⟨port, port?_eq_ok_iff.1 h⟩ notToken
    | error f => rw [hfault f h]

/-! ## Texts -/

/-- The ports that a rule can be for. -/
def PortChoice.Valid : PortChoice → Prop
  | .single ports => ports ≠ [] ∧ ∀ p ∈ ports, 1 ≤ p.toNat ∧ p.toNat ≤ 65535
  | .range ends =>
      1 ≤ ends.start.toNat ∧ ends.start.toNat ≤ ends.last.toNat ∧ ends.last.toNat ≤ 65535

/-- The texts of the grammar: two ports with a hyphen between them, the second not below the first,
or ports with commas between them. -/
inductive Spelled : List Char → PortChoice → Prop
  | range {a b : List Char} {start last : UInt32} (first : Token a start) (second : Token b last)
      (ordered : start.toNat ≤ last.toNat) (once : '-' ∉ a ∧ '-' ∉ b) :
      Spelled (a ++ '-' :: b) (.range ⟨start, last⟩)
  | single {parts : List (List Char)} {ports : List UInt32} (nonempty : parts ≠ [])
      (each : List.Forall₂ Token parts ports) (plain : ∀ p ∈ parts, '-' ∉ p) :
      Spelled ([','].intercalate parts) (.single ports)

/-- Ports that are spelled can be those of a rule. -/
theorem Spelled.valid {cs : List Char} {choice : PortChoice} (h : Spelled cs choice) :
    choice.Valid := by
  cases h with
  | range first second ordered _ => exact ⟨first.bounds.1, ordered, second.bounds.2⟩
  | @single parts ports nonempty each _ =>
      have hports : ports ≠ [] := by
        rintro rfl
        exact nonempty (List.forall₂_nil_right_iff.1 each)
      refine ⟨hports, ?_⟩
      intro port hport
      obtain ⟨p, -, token⟩ := exists_left_of_mem each port hport
      exact token.bounds

/-- The other texts, and what is wrong with them: the first part that is no port, the start of a
range before its end, and the order of a range that has both. -/
inductive Faulty : List Char → Fault → Prop
  | part {before after : List (List Char)} {p t : List Char}
      (good : ∀ q ∈ before, ∃ port, Token q port) (bad : ¬ ∃ port, Token p port)
      (stripped : Text.Stripped p t) (plain : ∀ q ∈ before ++ p :: after, '-' ∉ q ∧ ',' ∉ q) :
      Faulty ([','].intercalate (before ++ p :: after)) (.badPort (.ofList t))
  | first {a b t : List Char} (once : '-' ∉ a) (bad : ¬ ∃ port, Token a port)
      (stripped : Text.Stripped a t) : Faulty (a ++ '-' :: b) (.badPort (.ofList t))
  | second {a b t : List Char} (once : '-' ∉ a) (good : ∃ port, Token a port)
      (bad : ¬ ∃ port, Token b port) (stripped : Text.Stripped b t) :
      Faulty (a ++ '-' :: b) (.badPort (.ofList t))
  | reversed {a b : List Char} {start last : UInt32} (first : Token a start)
      (second : Token b last) (reversed : last.toNat < start.toNat) :
      Faulty (a ++ '-' :: b) (.reversedRange (.ofList (a ++ '-' :: b)))

/-- The first hyphen of a text stands between the ends of a range. -/
theorem portChoice?_append {a : List Char} (once : '-' ∉ a) (b : List Char) :
    portChoice? (a ++ '-' :: b) = port? a >>= fun start => port? b >>= fun last =>
      if start ≤ last then .ok (.range ⟨start, last⟩)
      else .error (.reversedRange (.ofList (a ++ '-' :: b))) := by
  unfold portChoice?
  rw [Text.splitFirst_append once]
  rfl

/-- A text without hyphens has single ports. -/
theorem portChoice?_of_not_mem {cs : List Char} (plain : '-' ∉ cs) :
    portChoice? cs = (Text.splitAll ',' cs).mapM port? >>= fun ports => .ok (.single ports) := by
  unfold portChoice?
  rw [Text.splitFirst_eq_none.2 plain]
  rfl

/-- Parts with commas between them have no hyphen when none of the parts has one. -/
theorem hyphen_not_mem_intercalate {parts : List (List Char)} :
    '-' ∉ [','].intercalate parts ↔ ∀ p ∈ parts, '-' ∉ p := by
  rw [← List.forall_mem_ne', Text.forall_mem_intercalate (by decide)]
  simp only [List.forall_mem_ne']

/-- The reader accepts what the grammar spells, and nothing else. -/
theorem portChoice?_eq_ok_iff {cs : List Char} {choice : PortChoice} :
    portChoice? cs = .ok choice ↔ Spelled cs choice := by
  constructor
  · intro h
    by_cases hyphen : '-' ∈ cs
    · obtain ⟨a, b, rfl, once⟩ := List.eq_append_cons_of_mem hyphen
      rw [portChoice?_append once] at h
      obtain ⟨start, hstart, h⟩ := bind_eq_ok.1 h
      obtain ⟨last, hlast, h⟩ := bind_eq_ok.1 h
      have first : Token a start := port?_eq_ok_iff.1 hstart
      have second : Token b last := port?_eq_ok_iff.1 hlast
      split at h
      · next ordered =>
          obtain rfl := Except.ok.inj h
          exact .range first second (UInt32.le_iff_toNat_le.1 ordered) ⟨once, second.not_mem.1⟩
      · cases h
    · rw [portChoice?_of_not_mem hyphen] at h
      obtain ⟨ports, hports, h⟩ := bind_eq_ok.1 h
      obtain rfl := Except.ok.inj h
      have each : List.Forall₂ Token (Text.splitAll ',' cs) ports :=
        (mapM_eq_ok.1 hports).imp fun _ _ => port?_eq_ok_iff.1
      have hsplit := Text.intercalate_splitAll ',' cs
      have plain : ∀ p ∈ Text.splitAll ',' cs, '-' ∉ p :=
        hyphen_not_mem_intercalate.1 (hsplit.symm ▸ hyphen)
      have hspelled := Spelled.single (Text.splitAllFrom_ne_nil ',' [] cs) each plain
      exact hsplit ▸ hspelled
  · intro h
    cases h with
    | @range a b start last first second ordered once =>
        rw [portChoice?_append once.1, port?_eq_ok_iff.2 first]
        refine bind_eq_ok.2 ⟨start, rfl, bind_eq_ok.2 ⟨last, port?_eq_ok_iff.2 second, ?_⟩⟩
        rw [if_pos (UInt32.le_iff_toNat_le.2 ordered)]
    | @single parts ports nonempty each plain =>
        have hcomma : ∀ p ∈ parts, ',' ∉ p := by
          intro p hp
          obtain ⟨port, -, token⟩ := exists_right_of_mem each p hp
          exact token.not_mem.2
        rw [portChoice?_of_not_mem (hyphen_not_mem_intercalate.2 plain),
          Text.splitAll_intercalate nonempty hcomma]
        refine bind_eq_ok.2 ⟨ports, ?_, rfl⟩
        exact mapM_eq_ok.2 (each.imp fun _ _ => port?_eq_ok_iff.2)

theorem exists_port?_eq_ok {cs : List Char} :
    (∃ port, port? cs = .ok port) ↔ ∃ port, Token cs port :=
  exists_congr fun _ => port?_eq_ok_iff

/-- The reader refuses every other text, and says what is wrong with it first. -/
theorem portChoice?_eq_error_iff {cs : List Char} {fault : Fault} :
    portChoice? cs = .error fault ↔ Faulty cs fault := by
  constructor
  · intro h
    by_cases hyphen : '-' ∈ cs
    · obtain ⟨a, b, rfl, once⟩ := List.eq_append_cons_of_mem hyphen
      rw [portChoice?_append once] at h
      rcases bind_eq_error.1 h with hstart | ⟨start, hstart, h⟩
      · obtain ⟨bad, t, stripped, rfl⟩ := port?_eq_error_iff.1 hstart
        exact .first once bad stripped
      · have first : Token a start := port?_eq_ok_iff.1 hstart
        rcases bind_eq_error.1 h with hlast | ⟨last, hlast, h⟩
        · obtain ⟨bad, t, stripped, rfl⟩ := port?_eq_error_iff.1 hlast
          exact .second once ⟨start, first⟩ bad stripped
        · split at h
          · cases h
          · next reversed =>
              obtain rfl := Except.error.inj h
              rw [UInt32.le_iff_toNat_le, Nat.not_le] at reversed
              exact .reversed first (port?_eq_ok_iff.1 hlast) reversed
    · rw [portChoice?_of_not_mem hyphen] at h
      rcases bind_eq_error.1 h with h | ⟨ports, -, h⟩
      · obtain ⟨before, p, after, hparts, hbefore, hp⟩ := mapM_eq_error.1 h
        obtain ⟨bad, t, stripped, rfl⟩ := port?_eq_error_iff.1 hp
        have hsplit := Text.intercalate_splitAll ',' cs
        have plain : ∀ q ∈ Text.splitAll ',' cs, '-' ∉ q ∧ ',' ∉ q := by
          intro q hq
          exact ⟨hyphen_not_mem_intercalate.1 (hsplit.symm ▸ hyphen) q hq,
            Text.not_mem_of_mem_splitAll hq⟩
        rw [hparts] at hsplit plain
        have hfaulty := Faulty.part (fun q hq => exists_port?_eq_ok.1 (hbefore q hq)) bad stripped
          plain
        exact hsplit ▸ hfaulty
      · cases h
  · intro h
    cases h with
    | @part before after p t good bad stripped plain =>
        have hhyphen := hyphen_not_mem_intercalate.2 fun q hq => (plain q hq).1
        rw [portChoice?_of_not_mem hhyphen,
          Text.splitAll_intercalate (by simp) fun q hq => (plain q hq).2]
        refine bind_eq_error.2 (.inl (mapM_eq_error.2 ⟨before, p, after, rfl, ?_, ?_⟩))
        · exact fun q hq => exists_port?_eq_ok.2 (good q hq)
        · exact port?_eq_error_iff.2 ⟨bad, t, stripped, rfl⟩
    | @first a b t once bad stripped =>
        rw [portChoice?_append once]
        exact bind_eq_error.2 (.inl (port?_eq_error_iff.2 ⟨bad, t, stripped, rfl⟩))
    | @second a b t once good bad stripped =>
        obtain ⟨start, first⟩ := good
        rw [portChoice?_append once, port?_eq_ok_iff.2 first]
        refine bind_eq_error.2 (.inr ⟨start, rfl, bind_eq_error.2 (.inl ?_)⟩)
        exact port?_eq_error_iff.2 ⟨bad, t, stripped, rfl⟩
    | @reversed a b start last first second reversed =>
        rw [portChoice?_append first.not_mem.1, port?_eq_ok_iff.2 first]
        refine bind_eq_error.2 (.inr ⟨start, rfl, ?_⟩)
        refine bind_eq_error.2 (.inr ⟨last, port?_eq_ok_iff.2 second, ?_⟩)
        rw [if_neg (by rw [UInt32.le_iff_toNat_le]; omega)]

/-! ## Decimal texts -/

namespace PortChoice

/-- Ports in decimal: single ones as the network of a process has them, a range by its two ends. -/
def text : PortChoice → String
  | .single ports => Identity.portsText ports
  | .range ends => toString ends.start.toNat ++ "-" ++ toString ends.last.toNat

theorem toList_text_range (ends : PortRange) : (text (.range ends)).toList
    = Nat.toDigits 10 ends.start.toNat ++ '-' :: Nat.toDigits 10 ends.last.toNat := by
  simp [text]

end PortChoice

/-- The decimal digits of a port are a port as it is written. -/
theorem token_toDigits {port : UInt32} (positive : 1 ≤ port.toNat) (bounded : port.toNat ≤ 65535) :
    Token (Nat.toDigits 10 port.toNat) port := by
  have hdigit : ∀ c ∈ Nat.toDigits 10 port.toNat, Text.isDigit c = true :=
    fun c hc => Text.isDigit_of_mem_toDigits hc
  obtain ⟨nonempty, each, value⟩ :=
    Text.digits?_eq_some_iff.1 (Text.digits?_toDigits port.toNat)
  have stripped : Text.Stripped (Nat.toDigits 10 port.toNat) ([] ++ Nat.toDigits 10 port.toNat) :=
    Text.stripped_of_not_blank fun c hc => Text.isBlank_of_isDigit (hdigit c hc)
  exact .written stripped (.inl rfl) nonempty each value positive bounded

/-- Decimal texts have no blanks. -/
theorem not_blank_of_mem_text (choice : PortChoice) :
    ∀ c ∈ choice.text.toList, Text.isBlank c = false := by
  have hdigits : ∀ port : UInt32, ∀ c ∈ Nat.toDigits 10 port.toNat, Text.isBlank c = false :=
    fun port c hc => Text.isBlank_of_isDigit (Text.isDigit_of_mem_toDigits hc)
  cases choice with
  | single ports =>
      rw [PortChoice.text, Identity.toList_portsText, Text.forall_mem_intercalate (by decide),
        List.forall_mem_map]
      exact fun port _ => hdigits port
  | range ends =>
      rw [PortChoice.toList_text_range, List.forall_mem_append, List.forall_mem_cons]
      exact ⟨hdigits ends.start, by decide, hdigits ends.last⟩

/-- Ports that are written in decimal are spelled by the grammar. -/
theorem spelled_text {choice : PortChoice} (valid : choice.Valid) :
    Spelled choice.text.toList choice := by
  cases choice with
  | single ports =>
      obtain ⟨nonempty, bounds⟩ := valid
      have each : List.Forall₂ Token (ports.map fun p => Nat.toDigits 10 p.toNat) ports := by
        rw [List.forall₂_map_left_iff, List.forall₂_same]
        exact fun p hp => token_toDigits (bounds p hp).1 (bounds p hp).2
      have plain : ∀ p ∈ ports.map fun p => Nat.toDigits 10 p.toNat, '-' ∉ p := by
        intro p hp
        obtain ⟨port, -, token⟩ := exists_right_of_mem each p hp
        exact token.not_mem.1
      rw [PortChoice.text, Identity.toList_portsText]
      exact .single (by simpa using nonempty) each plain
  | range ends =>
      obtain ⟨positive, ordered, bounded⟩ := valid
      have first := token_toDigits positive (ordered.trans bounded)
      have second := token_toDigits (positive.trans ordered) bounded
      rw [PortChoice.toList_text_range]
      exact .range first second ordered ⟨first.not_mem.1, second.not_mem.1⟩

/-! ## Rules with ports -/

/-- The rule is for these ports and for no others. -/
def IsFor (r : EgressRule) : PortChoice → Prop
  | .single ports => r.ports = ports ∧ r.portRange = none
  | .range ends => r.ports = [] ∧ r.portRange = some ends

theorem isFor_plain (group : SecurityGroup) (rule : SecurityGroup.Rule) (choice : PortChoice) :
    ((plain group rule).withPorts choice).IsFor choice := by
  cases choice with
  | single ports => exact ⟨rfl, rfl⟩
  | range ends => exact ⟨rfl, rfl⟩

/-- A rule is for one choice of ports. -/
theorem IsFor.eq {r : EgressRule} {choice other : PortChoice} (h : r.IsFor choice)
    (h' : r.IsFor other) : choice = other := by
  cases choice <;> cases other <;> simp_all [IsFor]

/--
**Ports are read exactly.** Let `t` be the ports of a rule for `tcp` or `udp`, without the blanks
around them. The rule has an egress rule exactly when the grammar spells `t`, and that is for the
ports that are spelled and for no others. In every other case the fault is the one that `t` has
first. Ports and ranges that are written in decimal are read as they were.
-/
theorem ofRule_reads_ports (group : SecurityGroup) {rule : SecurityGroup.Rule}
    (ported : rule.Ported) {ports : String} (given : rule.ports = some ports) :
    ∃ t, Text.Stripped ports.toList t ∧
      ((∃ r, ofRule group rule = .ok r) ↔ ∃ choice, Spelled t choice) ∧
      (∀ r choice, ofRule group rule = .ok r → (Spelled t choice ↔ r.IsFor choice)) ∧
      (∀ fault, ofRule group rule = .error fault ↔ Faulty t fault) ∧
      ∀ choice : PortChoice, choice.Valid →
        ∃ r, ofRule group { rule with ports := some choice.text } = .ok r ∧ r.IsFor choice := by
  have hok : ∀ r, ofRule group rule = .ok r ↔
      ∃ choice, Spelled (Text.trimChars ports.toList) choice ∧
        (plain group rule).withPorts choice = r := by
    intro r
    rw [ofRule_of_ported ported given, map_eq_ok]
    simp only [ports?, portChoice?_eq_ok_iff]
  refine ⟨_, Text.stripped_trimChars ports.toList, ?_, ?_, ?_, ?_⟩
  · constructor
    · rintro ⟨r, h⟩
      obtain ⟨choice, spelled, -⟩ := (hok r).1 h
      exact ⟨choice, spelled⟩
    · rintro ⟨choice, spelled⟩
      exact ⟨_, (hok _).2 ⟨choice, spelled, rfl⟩⟩
  · intro r choice h
    obtain ⟨read, hread, rfl⟩ := (hok r).1 h
    have isFor := isFor_plain group rule read
    constructor
    · intro spelled
      have hsame : Except.ok read = Except.ok (ε := Fault) choice :=
        (portChoice?_eq_ok_iff.2 hread).symm.trans (portChoice?_eq_ok_iff.2 spelled)
      exact Except.ok.inj hsame ▸ isFor
    · intro other
      exact isFor.eq other ▸ hread
  · intro fault
    rw [ofRule_of_ported ported given, map_eq_error, ports?, portChoice?_eq_error_iff]
  · intro choice valid
    have hread : ports? choice.text = .ok choice := by
      have hstripped := Text.stripped_of_not_blank (not_blank_of_mem_text choice)
      rw [ports?, Text.stripped_iff.1 hstripped, portChoice?_eq_ok_iff]
      exact spelled_text valid
    let written : SecurityGroup.Rule := { rule with ports := some choice.text }
    have hported : written.Ported := ported
    have hrule : ofRule group written = .ok ((plain group written).withPorts choice) := by
      rw [ofRule_of_ported hported rfl, hread]
      rfl
    exact ⟨_, hrule, isFor_plain group written choice⟩

/-- A rule for two ports, with a plus sign, zeros and blanks. -/
def listedRule : SecurityGroup.Rule :=
  ⟨"Tcp", "10.0.0.1", some " 80, +0443", none, none, false, none⟩

/-- A rule in which the end of a range is two ports. -/
def mixedRule : SecurityGroup.Rule :=
  ⟨"udp", "10.0.0.1", some "80-443,500", none, none, false, none⟩

/-- Two ports that are read, and a mixture of both forms that is not. -/
theorem ofRule_reads_ports_mixed :
    (listedRule.Ported ∧ ∃ r, ofRule ⟨"web", "web", []⟩ listedRule = .ok r ∧
      r.IsFor (.single [80, 443])) ∧
    mixedRule.Ported ∧ ofRule ⟨"web", "web", []⟩ mixedRule = .error (.badPort "443,500") := by
  have hlisted : listedRule.Ported := .inl (by decide)
  have hmixed : mixedRule.Ported := .inr (by decide)
  have unsigned : Text.Stripped "80".toList ([] ++ "80".toList) := Text.stripped_iff.2 rfl
  have first : Token "80".toList 80 := by
    have digits : Text.digits? "80".toList = some 80 := rfl
    obtain ⟨nonempty, each, value⟩ := Text.digits?_eq_some_iff.1 digits
    exact .written unsigned (.inl rfl) nonempty each value (by decide) (by decide)
  have signed : Text.Stripped " +0443".toList (['+'] ++ "0443".toList) := Text.stripped_iff.2 rfl
  have second : Token " +0443".toList 443 := by
    have digits : Text.digits? "0443".toList = some 443 := rfl
    obtain ⟨nonempty, each, value⟩ := Text.digits?_eq_some_iff.1 digits
    exact .written signed (.inr rfl) nonempty each value (by decide) (by decide)
  refine ⟨⟨hlisted, ?_⟩, hmixed, ?_⟩
  · obtain ⟨t, ht, hserved, hports, -, -⟩ := ofRule_reads_ports ⟨"web", "web", []⟩ hlisted rfl
    obtain rfl : "80, +0443".toList = t := Text.stripped_iff.1 ht
    have each : List.Forall₂ Token ["80".toList, " +0443".toList] [80, 443] :=
      .cons first (.cons second .nil)
    have spelled : Spelled "80, +0443".toList (.single [80, 443]) :=
      Spelled.single (by decide) each (by decide)
    obtain ⟨r, hr⟩ := hserved.2 ⟨_, spelled⟩
    exact ⟨r, hr, (hports r _ hr).1 spelled⟩
  · obtain ⟨t, ht, -, -, hfaults, -⟩ := ofRule_reads_ports ⟨"web", "web", []⟩ hmixed rfl
    obtain rfl : "80-443,500".toList = t := Text.stripped_iff.1 ht
    have bad : ¬ ∃ port, Token "443,500".toList port := by
      rintro ⟨port, token⟩
      exact token.not_mem.2 (by decide)
    have behind : Text.Stripped "443,500".toList "443,500".toList := Text.stripped_iff.2 rfl
    have faulty : Faulty ("80".toList ++ '-' :: "443,500".toList) (.badPort "443,500") :=
      .second (by decide) ⟨80, first⟩ bad behind
    exact (hfaults _).2 faulty

end EgressRule

end CellRecipe

import ExpiringCache.Settings
import Mathlib.Data.Nat.Digits.Defs
import Mathlib.Tactic.SplitIfs

/-!
# The settings in force

A variable of the environment is read on its own: its setting is the number that the variable
spells if the setting can have it, and its default otherwise (`of_ofEnvironment_of_gives`,
`of_ofEnvironment_of_not_gives`). A cache starts from standard settings and takes those of the
server by the same changes that can be made to it afterwards (`Settings.engine_changed_eq`). Zero
never replaces an interval or a batch, so the last one that is not zero is in force after any
changes (`getLast?_asked`), and the evictor always has an interval to wait and records to pop.
-/

namespace ExpiringCache

/-- A text is a number in decimal: ASCII digits, at least one, and perhaps a plus sign before
them. -/
def IsNumeral (text : List Char) (n : Nat) : Prop :=
  ∃ digits : List Nat, digits ≠ [] ∧ (∀ d ∈ digits, d < 10) ∧
    n = Nat.ofDigits 10 digits.reverse ∧
    (text = digits.map Nat.digitChar ∨ text = '+' :: digits.map Nat.digitChar)

inductive Setting where
  | serverPort | cleanupInterval | evictionBatch | sampleThreshold
  deriving DecidableEq

namespace Setting

/-- The variable that a setting is read from. -/
def name : Setting → String
  | serverPort => "SERVER_PORT"
  | cleanupInterval => "CLEANUP_INTERVAL"
  | evictionBatch => "EVICTION_BATCH_SIZE"
  | sampleThreshold => "SIZE_SAMPLE_THRESHOLD"

/-- The largest number that a setting holds: 16 bits for a port and 64 for the others. -/
def limit : Setting → Nat
  | serverPort => 65535
  | cleanupInterval | evictionBatch | sampleThreshold => 18446744073709551615

def fallback : Setting → Nat
  | serverPort => 8080
  | cleanupInterval => 60
  | evictionBatch => 1000
  | sampleThreshold => 10000

def allowsZero : Setting → Bool
  | serverPort | sampleThreshold => true
  | cleanupInterval | evictionBatch => false

/-- The value of one setting among all of them. -/
def of (s : Settings) : Setting → Nat
  | serverPort => s.serverPort
  | cleanupInterval => s.cleanupInterval
  | evictionBatch => s.evictionBatch
  | sampleThreshold => s.sampleThreshold

/-- What a variable holds is the UTF-8 text of a number that the setting can have. -/
def Gives (setting : Setting) (value : Option ByteArray) (n : Nat) : Prop :=
  (∃ text : String, value = some text.toUTF8 ∧ IsNumeral text.toList n) ∧
    n ≤ setting.limit ∧ (setting.allowsZero = false → n ≠ 0)

end Setting

inductive EngineSetting where
  | interval | batch | sampleThreshold
  deriving DecidableEq

namespace EngineSetting

/-- The value of one setting among all those of a cache. -/
def of (s : EngineSettings) : EngineSetting → Nat
  | interval => s.intervalNanos
  | batch => s.batch
  | sampleThreshold => s.sampleThreshold

/-- Whether a number is ever put in the place of the one in force. -/
def counts : EngineSetting → Nat → Bool
  | interval, n | batch, n => n ≠ 0
  | sampleThreshold, _ => true

end EngineSetting

namespace EngineSettings

/-- A setting and the number that is asked for. -/
structure Change where
  setting : EngineSetting
  value : Nat
  deriving DecidableEq

/-- One change of the settings. -/
def change (s : EngineSettings) (c : Change) : EngineSettings :=
  match c.setting with
  | .interval => s.withInterval c.value
  | .batch => s.withBatch c.value
  | .sampleThreshold => s.withSampleThreshold c.value

/-- The settings after some changes. -/
def changed (s : EngineSettings) (changes : List Change) : EngineSettings := changes.foldl change s

/-- The numbers that some changes ask for as one setting. -/
def asked (changes : List Change) (setting : EngineSetting) : List Nat :=
  (changes.filter (·.setting = setting)).map Change.value

end EngineSettings

section Numerals

variable {limit n : Nat}

theorem forall_isDigit_iff : ∀ {chars : List Char}, (∀ c ∈ chars, c.isDigit = true) ↔
    ∃ digits : List Nat, (∀ d ∈ digits, d < 10) ∧ chars = digits.map Nat.digitChar
  | [] => ⟨fun _ => ⟨[], by simp, rfl⟩, by simp⟩
  | c :: chars => by
    rw [List.forall_mem_cons, forall_isDigit_iff]
    constructor
    · rintro ⟨hc, digits, hdigits, rfl⟩
      simp only [Char.isDigit_iff_toNat, Char.reduceToNat] at hc
      refine ⟨(c.toNat - 48) :: digits, List.forall_mem_cons.2 ⟨by omega, hdigits⟩, ?_⟩
      rw [List.map_cons, List.cons.injEq, ← Char.toNat_inj,
        Nat.toNat_digitChar_of_lt_ten (by omega)]
      exact ⟨by omega, rfl⟩
    · rintro ⟨digits, hdigits, heq⟩
      rcases digits with _ | ⟨d, digits⟩
      · simp at heq
      · obtain ⟨rfl, rfl⟩ := List.cons.inj heq
        obtain ⟨hd, hdigits⟩ := List.forall_mem_cons.1 hdigits
        exact ⟨by rw [Nat.isDigit_digitChar]; simpa using hd, digits, hdigits, rfl⟩

theorem foldl_digitChar : ∀ {digits : List Nat} (start : Nat), (∀ d ∈ digits, d < 10) →
    (digits.map Nat.digitChar).foldl (fun n c => n * 10 + (c.toNat - '0'.toNat)) start =
      digits.foldl (fun n d => d + 10 * n) start
  | [], _, _ => rfl
  | d :: digits, start, h => by
    obtain ⟨hd, h⟩ := List.forall_mem_cons.1 h
    have hvalue : start * 10 + ((Nat.digitChar d).toNat - '0'.toNat) = d + 10 * start := by
      simp only [Nat.toNat_digitChar_of_lt_ten hd, Char.reduceToNat]
      omega
    rw [List.map_cons, List.foldl_cons, List.foldl_cons, hvalue, foldl_digitChar _ h]

theorem map_digitChar_ne {digits : List Nat} (h : ∀ d ∈ digits, d < 10) {chars : List Char} :
    digits.map Nat.digitChar ≠ '+' :: chars := by
  intro heq
  have hplus := forall_isDigit_iff.2 ⟨digits, h, rfl⟩ '+' (by simp [heq])
  cases hplus

/-- The number of some characters without a sign, if it is not above the limit. -/
theorem digits_eq_some_iff {body : List Char} :
    (if body.isEmpty || ! body.all Char.isDigit then none
      else if body.foldl (fun n c => n * 10 + (c.toNat - '0'.toNat)) 0 ≤ limit then
        some (body.foldl (fun n c => n * 10 + (c.toNat - '0'.toNat)) 0)
      else none) = some n ↔
    (∃ digits : List Nat, digits ≠ [] ∧ (∀ d ∈ digits, d < 10) ∧
      n = Nat.ofDigits 10 digits.reverse ∧ body = digits.map Nat.digitChar) ∧ n ≤ limit := by
  have hvalue : ∀ {digits : List Nat}, (∀ d ∈ digits, d < 10) →
      (digits.map Nat.digitChar).foldl (fun n c => n * 10 + (c.toNat - '0'.toNat)) 0 =
        Nat.ofDigits 10 digits.reverse := by
    intro digits h
    rw [foldl_digitChar 0 h, Nat.ofDigits_eq_foldr, List.foldr_reverse]
    rfl
  constructor
  · intro h
    split_ifs at h with hbody hle
    simp only [Bool.or_eq_true, Bool.not_eq_true', not_or, Bool.not_eq_false,
      List.isEmpty_iff, List.all_eq_true] at hbody
    obtain ⟨digits, hdigits, rfl⟩ := forall_isDigit_iff.1 hbody.2
    rw [hvalue hdigits] at h hle
    obtain rfl := Option.some.inj h
    exact ⟨⟨digits, by simpa using hbody.1, hdigits, rfl, rfl⟩, hle⟩
  · rintro ⟨⟨digits, hne, hdigits, rfl, rfl⟩, hle⟩
    rw [if_neg, hvalue hdigits, if_pos hle]
    simp only [Bool.or_eq_true, Bool.not_eq_true', not_or, Bool.not_eq_false,
      List.isEmpty_iff, List.all_eq_true]
    exact ⟨by simpa using hne, forall_isDigit_iff.2 ⟨digits, hdigits, rfl⟩⟩

theorem Settings.readNumber?_eq_some_iff {text : String} :
    Settings.readNumber? limit text = some n ↔ IsNumeral text.toList n ∧ n ≤ limit := by
  unfold Settings.readNumber?
  generalize text.toList = chars
  refine digits_eq_some_iff.trans (and_congr_left fun _ => ?_)
  refine exists_congr fun digits => and_congr_right fun _ => and_congr_right fun hdigits =>
    and_congr_right fun _ => ?_
  split
  · rw [List.cons.injEq, or_iff_right (map_digitChar_ne hdigits).symm]
    simp
  · rename_i hplus
    exact (or_iff_left fun heq => hplus _ heq).symm

end Numerals

section Environment

variable {env : String → Option ByteArray} {n : Nat}

theorem fromUTF8?_eq_some_iff {bytes : ByteArray} {text : String} :
    String.fromUTF8? bytes = some text ↔ bytes = text.toUTF8 := by
  unfold String.fromUTF8?
  constructor
  · intro h
    split_ifs at h
    rw [← Option.some.inj h]
    rfl
  · rintro rfl
    exact dif_pos text.isValidUTF8

/-- What a variable is read as: the number that it spells, if that is not above the limit. -/
theorem readVariable_eq_some_iff {limit : Nat} {value : Option ByteArray} :
    (value.bind String.fromUTF8?).bind (Settings.readNumber? limit) = some n ↔
      (∃ text : String, value = some text.toUTF8 ∧ IsNumeral text.toList n) ∧ n ≤ limit := by
  simp only [Option.bind_eq_some_iff, fromUTF8?_eq_some_iff, Settings.readNumber?_eq_some_iff]
  constructor
  · rintro ⟨text, ⟨bytes, rfl, rfl⟩, hnumeral, hle⟩
    exact ⟨⟨text, rfl, hnumeral⟩, hle⟩
  · rintro ⟨⟨text, rfl, hnumeral⟩, hle⟩
    exact ⟨text, ⟨_, rfl, rfl⟩, hnumeral, hle⟩

namespace Setting

/-- Each setting is read from its own variable, all in the same way. -/
theorem of_ofEnvironment (setting : Setting) (env : String → Option ByteArray) :
    setting.of (Settings.ofEnvironment env) =
      if setting.allowsZero then
        Settings.numberOr setting.fallback setting.limit (env setting.name)
      else
        Settings.nonzeroOr setting.fallback
          (Settings.numberOr setting.fallback setting.limit (env setting.name)) := by
  rcases setting <;> rfl

variable {setting : Setting}

theorem of_ofEnvironment_of_gives (h : setting.Gives (env setting.name) n) :
    setting.of (Settings.ofEnvironment env) = n := by
  obtain ⟨htext, hle, hzero⟩ := h
  have hnumber : Settings.numberOr setting.fallback setting.limit (env setting.name) = n := by
    rw [Settings.numberOr, readVariable_eq_some_iff.2 ⟨htext, hle⟩, Option.getD_some]
  rw [of_ofEnvironment, hnumber]
  split_ifs with hallows
  · rfl
  · exact if_neg (hzero (by simpa using hallows))

theorem of_ofEnvironment_of_not_gives (h : ∀ n, ¬ setting.Gives (env setting.name) n) :
    setting.of (Settings.ofEnvironment env) = setting.fallback := by
  rw [of_ofEnvironment]
  rcases hread : ((env setting.name).bind String.fromUTF8?).bind
    (Settings.readNumber? setting.limit) with _ | n
  · simp [Settings.numberOr, Settings.nonzeroOr, hread]
  -- A number that the setting could hold is not given only if it is a zero that is refused.
  obtain ⟨htext, hle⟩ := readVariable_eq_some_iff.1 hread
  have hnumber : Settings.numberOr setting.fallback setting.limit (env setting.name) = n := by
    rw [Settings.numberOr, hread, Option.getD_some]
  have hrefused : setting.allowsZero = false ∧ n = 0 := by
    by_contra hnot
    exact h n ⟨htext, hle, fun hallows hn => hnot ⟨hallows, hn⟩⟩
  rw [hnumber, hrefused.1, hrefused.2]
  rfl

theorem of_pos_of_not_allowsZero (h : setting.allowsZero = false)
    (env : String → Option ByteArray) : 0 < setting.of (Settings.ofEnvironment env) := by
  rw [of_ofEnvironment, h]
  simp only [Bool.false_eq_true, if_false, Settings.nonzeroOr]
  split_ifs with hn
  · rcases setting <;> decide
  · exact Nat.pos_of_ne_zero hn

end Setting

end Environment

section Changes

open EngineSettings

/-- A change of one setting leaves the others, and the one too if its number does not count. -/
theorem of_change (s : EngineSettings) (c : Change) (setting : EngineSetting) :
    setting.of (s.change c) =
      if c.setting = setting ∧ setting.counts c.value then c.value else setting.of s := by
  obtain ⟨target, n⟩ := c
  by_cases hn : n = 0 <;> rcases target <;> rcases setting <;>
    simp [change, EngineSetting.of, EngineSetting.counts, withInterval, withBatch,
      withSampleThreshold, hn]

/-- After any changes the last number that counts is in force. -/
theorem getLast?_asked (setting : EngineSetting) : ∀ (changes : List Change) (s : EngineSettings),
    setting.counts (setting.of s) →
      ((setting.of s :: asked changes setting).filter setting.counts).getLast? =
        some (setting.of (s.changed changes)) ∧
      setting.counts (setting.of (s.changed changes))
  | [], s, h => by simp [asked, changed, h]
  | c :: changes, s, h => by
    have hof := of_change s c setting
    have hnext : setting.counts (setting.of (s.change c)) := by
      rw [hof]
      split_ifs with hc
      · exact hc.2
      · exact h
    obtain ⟨hlast, hcounts⟩ := getLast?_asked setting changes (s.change c) hnext
    refine ⟨?_, hcounts⟩
    rw [show s.changed (c :: changes) = (s.change c).changed changes from rfl, ← hlast, hof]
    by_cases hsetting : c.setting = setting
    · by_cases hc : setting.counts c.value = true
      · simp [asked, hsetting, hc, h]
      · simp [asked, hsetting, hc]
    · simp [asked, hsetting]

/-- A cache takes the settings of a server by changes of the standard ones. -/
theorem Settings.engine_changed_eq (s : Settings) (changes : List Change) :
    s.engine.changed changes = EngineSettings.standard.changed
      (⟨.interval, s.cleanupInterval * 1000000000⟩ :: ⟨.batch, s.evictionBatch⟩ ::
        ⟨.sampleThreshold, s.sampleThreshold⟩ :: changes) := rfl

theorem getLast?_asked_engine (s : Settings) (changes : List Change) (setting : EngineSetting) :
    ((setting.of EngineSettings.standard ::
      asked (⟨.interval, s.cleanupInterval * 1000000000⟩ :: ⟨.batch, s.evictionBatch⟩ ::
        ⟨.sampleThreshold, s.sampleThreshold⟩ :: changes) setting).filter setting.counts).getLast? =
        some (setting.of (s.engine.changed changes)) ∧
      setting.counts (setting.of (s.engine.changed changes)) := by
  rw [s.engine_changed_eq]
  exact getLast?_asked setting _ _ (by rcases setting <;> rfl)

end Changes

/-- Every setting that is read is the number that its variable spells, or its default, whatever the
other variables hold; a cache takes the settings over as they are, with an interval and a batch of
at least one. Whatever settings a server has and whatever changes follow, the last interval and
the last batch that were not zero are in force, and the last threshold. -/
theorem settings_keep_the_evictor_going :
    (∀ (env : String → Option ByteArray) (setting : Setting),
      (∀ n, setting.Gives (env setting.name) n →
        setting.of (Settings.ofEnvironment env) = n) ∧
      ((∀ n, ¬ setting.Gives (env setting.name) n) →
        setting.of (Settings.ofEnvironment env) = setting.fallback) ∧
      ∀ env' : String → Option ByteArray, env' setting.name = env setting.name →
        setting.of (Settings.ofEnvironment env') = setting.of (Settings.ofEnvironment env)) ∧
    (∀ env : String → Option ByteArray,
      let s := Settings.ofEnvironment env
      s.engine = ⟨s.cleanupInterval * 1000000000, s.evictionBatch, s.sampleThreshold⟩ ∧
        1 ≤ s.cleanupInterval ∧ 1 ≤ s.evictionBatch) ∧
    ∀ (s : Settings) (changes : List EngineSettings.Change),
      let after := s.engine.changed changes
      (after.intervalNanos ≠ 0 ∧
        ((60000000000 :: s.cleanupInterval * 1000000000 ::
          EngineSettings.asked changes .interval).filter (· ≠ 0)).getLast? =
            some after.intervalNanos) ∧
      (after.batch ≠ 0 ∧
        ((1000 :: s.evictionBatch :: EngineSettings.asked changes .batch).filter
          (· ≠ 0)).getLast? = some after.batch) ∧
      (s.sampleThreshold :: EngineSettings.asked changes .sampleThreshold).getLast? =
        some after.sampleThreshold := by
  refine ⟨fun env setting => ⟨fun n => Setting.of_ofEnvironment_of_gives,
    Setting.of_ofEnvironment_of_not_gives, fun env' henv => ?_⟩, fun env => ?_,
    fun s changes => ⟨?_, ?_, ?_⟩⟩
  · rw [Setting.of_ofEnvironment, Setting.of_ofEnvironment, henv]
  · have hinterval : 0 < (Settings.ofEnvironment env).cleanupInterval :=
      Setting.of_pos_of_not_allowsZero (rfl : Setting.cleanupInterval.allowsZero = false) env
    have hbatch : 0 < (Settings.ofEnvironment env).evictionBatch :=
      Setting.of_pos_of_not_allowsZero (rfl : Setting.evictionBatch.allowsZero = false) env
    refine ⟨?_, hinterval, hbatch⟩
    simp [Settings.engine, EngineSettings.withInterval, EngineSettings.withBatch,
      EngineSettings.withSampleThreshold, Nat.ne_of_gt hinterval, Nat.ne_of_gt hbatch]
  · obtain ⟨hlast, hcounts⟩ := getLast?_asked_engine s changes .interval
    exact ⟨of_decide_eq_true hcounts, hlast⟩
  · obtain ⟨hlast, hcounts⟩ := getLast?_asked_engine s changes .batch
    exact ⟨of_decide_eq_true hcounts, hlast⟩
  · obtain ⟨hlast, -⟩ := getLast?_asked_engine s changes .sampleThreshold
    have hall : ∀ numbers : List Nat,
        numbers.filter EngineSetting.sampleThreshold.counts = numbers :=
      fun _ => List.filter_eq_self.2 fun _ _ => rfl
    rw [hall] at hlast
    exact hlast

/-- A port with a sign and zeros in front, an interval of zero, and another environment that
agrees on the port only. -/
theorem settings_keep_the_evictor_going_zero_interval :
    let env : String → Option ByteArray := fun name =>
      if name = "SERVER_PORT" then some "+0090".toUTF8
      else if name = "CLEANUP_INTERVAL" then some "0".toUTF8
      else none
    let env' : String → Option ByteArray := fun name =>
      if name = "SERVER_PORT" then some "+0090".toUTF8 else some "7".toUTF8
    Setting.serverPort.Gives (env "SERVER_PORT") 90 ∧
      (Settings.ofEnvironment env).serverPort = 90 ∧
      (∀ n, ¬ Setting.cleanupInterval.Gives (env "CLEANUP_INTERVAL") n) ∧
      (Settings.ofEnvironment env).cleanupInterval = 60 ∧
      env' "SERVER_PORT" = env "SERVER_PORT" ∧
      (Settings.ofEnvironment env').serverPort = (Settings.ofEnvironment env).serverPort := by
  intro env env'
  have hport : Setting.serverPort.Gives (env "SERVER_PORT") 90 :=
    ⟨⟨"+0090", rfl, [0, 0, 9, 0], by simp, by simp, rfl, .inr rfl⟩, by decide, by decide⟩
  have hinterval : ∀ n, ¬ Setting.cleanupInterval.Gives (env "CLEANUP_INTERVAL") n := by
    rintro n ⟨htext, hle, hne⟩
    have hzero := readVariable_eq_some_iff.2 ⟨⟨"0", rfl, [0], by simp, by simp, rfl, .inl rfl⟩,
      Nat.zero_le Setting.cleanupInterval.limit⟩
    have hread := readVariable_eq_some_iff.2 ⟨htext, hle⟩
    rw [show env "CLEANUP_INTERVAL" = some "0".toUTF8 from rfl, hzero] at hread
    exact hne rfl (Option.some.inj hread).symm
  obtain ⟨hgiven, -, hsame⟩ := settings_keep_the_evictor_going.1 env .serverPort
  obtain ⟨-, hfallback, -⟩ := settings_keep_the_evictor_going.1 env .cleanupInterval
  exact ⟨hport, hgiven 90 hport, hinterval, hfallback hinterval, rfl, hsame env' rfl⟩

end ExpiringCache

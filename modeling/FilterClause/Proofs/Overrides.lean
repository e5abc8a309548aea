import FilterClause.Settings
import Mathlib.Data.List.Induction

/-!
Several environments applied one after another. An environment is taken away when it is applied, so it
counts only where its name stands first. A setting is what the last of the environments that count and
that set it say, and what it was before if none of them does.
-/
namespace FilterClause

namespace Entries

variable {α : Type}

/-- An entry is found among those that are kept just when its name is one to keep. -/
theorem find?_filter (entries : Entries α) (keep : String → Prop) [DecidablePred keep]
    (name : String) :
    find? (entries.filter fun entry => keep entry.1) name =
      if keep name then find? entries name else none := by
  induction entries with
  | nil => simp [find?]
  | cons entry entries ih =>
    obtain ⟨other, value⟩ := entry
    simp only [find?] at ih ⊢
    by_cases hname : name = other
    · subst hname
      by_cases hkeep : keep name
      · simp [hkeep]
      · simp [hkeep, ih]
    · have hne : (name == other) = false := by simpa using hname
      by_cases hkeep : keep other
      · simp [hkeep, List.lookup_cons, hne, ih]
      · simp [hkeep, List.lookup_cons, hne, ih]

/-- Nothing is taken away under a name that is not there. -/
theorem erase_eq_self {entries : Entries α} {name : String} (h : find? entries name = none) :
    erase entries name = entries := by
  rw [erase, List.filter_eq_self]
  rintro ⟨other, value⟩ hentry
  have hother : (name != other) = true := List.lookup_eq_none_iff.mp h (other, value) hentry
  simpa using Ne.symm (bne_iff_ne.mp hother)

end Entries

/-! ### What an environment gives -/

namespace Environment

def mode (e : Environment) : Option Mode := e.options.bind OptionsOverride.mode

def dialect (e : Environment) : Option Dialect := e.options.bind OptionsOverride.dialect

def offset (e : Environment) : Option Nat := e.options.bind OptionsOverride.offset

def filterType (e : Environment) : Option FilterType := e.options.bind OptionsOverride.filterType

def logSql (e : Environment) : Option Bool := e.log.bind LogOverride.logSql

end Environment

namespace Settings

open Entries

variable {α : Type}

/-- What the environment under a name gives for a setting. -/
def given (s : Settings) (setting : Environment → Option α) (name : String) : Option α :=
  (s.environments.find? name).bind setting

/-- Applying an environment puts in what it gives, setting by setting, and takes it away. -/
theorem withEnvironment_eq (s : Settings) (name : String) :
    s.withEnvironment name =
      { options :=
          { mode := (s.given Environment.mode name).getD s.options.mode
            dialect := (s.given Environment.dialect name).getD s.options.dialect
            offset := (s.given Environment.offset name).getD s.options.offset
            filterType := (s.given Environment.filterType name).getD s.options.filterType }
        logSql := (s.given Environment.logSql name).getD s.logSql
        environments := s.environments.erase name } := by
  unfold withEnvironment given
  cases hfind : s.environments.find? name with
  | none => rw [erase_eq_self hfind]; rfl
  | some environment =>
    obtain ⟨options, log⟩ := environment
    cases options <;> rfl

/-- A name that is none changes nothing. -/
theorem withEnvironment_of_find?_eq_none {s : Settings} {name : String}
    (h : s.environments.find? name = none) : s.withEnvironment name = s := by
  rw [withEnvironment, h]

/-! ### One after another -/

/-- Applies environments one after another. -/
def withEnvironments (s : Settings) (names : List String) : Settings :=
  names.foldl withEnvironment s

/-- The last that is given for a setting by the environments under some names, where a name counts only
once, at its first place. -/
def lastGiven (s : Settings) (setting : Environment → Option α) (names : List String) : Option α :=
  (names.eraseDups.filterMap (s.given setting)).getLast?

theorem withEnvironments_concat (s : Settings) (names : List String) (name : String) :
    s.withEnvironments (names ++ [name]) = (s.withEnvironments names).withEnvironment name := by
  simp [withEnvironments]

/-- The environments that are left are those that no name was given of. -/
theorem environments_withEnvironments (s : Settings) (names : List String) :
    (s.withEnvironments names).environments =
      s.environments.filter fun entry => entry.1 ∉ names := by
  induction names using List.reverseRecOn with
  | nil => exact (List.filter_eq_self.mpr (by simp)).symm
  | append_singleton names name ih =>
    rw [withEnvironments_concat, withEnvironment_eq]
    dsimp only
    rw [ih, erase, List.filter_filter]
    refine List.filter_congr fun entry _ => ?_
    by_cases hname : entry.1 = name <;> simp [hname]

theorem find?_withEnvironments (s : Settings) (names : List String) (name : String) :
    (s.withEnvironments names).environments.find? name =
      if name ∈ names then none else s.environments.find? name := by
  rw [environments_withEnvironments, find?_filter _ (· ∉ names)]
  by_cases hname : name ∈ names <;> simp [hname]

/-- Only the first place of a name counts. -/
theorem eraseDups_concat (names : List String) (name : String) :
    (names ++ [name]).eraseDups = if name ∈ names then names.eraseDups
      else names.eraseDups ++ [name] := by
  rw [List.eraseDups_append]
  by_cases hname : name ∈ names
  · have hnone : [name].removeAll names = [] := by simp [List.removeAll, hname]
    rw [hnone, if_pos hname, List.eraseDups_nil, List.append_nil]
  · have hone : [name].removeAll names = [name] := by simp [List.removeAll, hname]
    rw [hone, if_neg hname]
    rfl

/-- One more name gives what it gives after the ones before it. -/
theorem lastGiven_concat (s : Settings) (setting : Environment → Option α) (names : List String)
    (name : String) :
    s.lastGiven setting (names ++ [name]) =
      ((s.withEnvironments names).given setting name).or (s.lastGiven setting names) := by
  rw [given, find?_withEnvironments, lastGiven, eraseDups_concat, lastGiven]
  by_cases hname : name ∈ names
  · rw [if_pos hname, if_pos hname, Option.bind_none, Option.none_or]
  · rw [if_neg hname, if_neg hname, ← given, List.filterMap_append, List.getLast?_append]
    cases hgiven : s.given setting name <;> simp [hgiven]

/-- A setting that one environment changes to what it gives is changed by several to what is given
last. -/
theorem withEnvironments_setting (value : Settings → α) {setting : Environment → Option α}
    (h : ∀ (s : Settings) (name : String),
      value (s.withEnvironment name) = (s.given setting name).getD (value s))
    (s : Settings) (names : List String) :
    value (s.withEnvironments names) = (s.lastGiven setting names).getD (value s) := by
  induction names using List.reverseRecOn with
  | nil => rfl
  | append_singleton names name ih =>
    rw [withEnvironments_concat, h, ih, lastGiven_concat, Option.getD_or]

/-- Names that were given before, and names of no environment, may be left out. -/
theorem withEnvironments_relevant (s : Settings) (names : List String) :
    s.withEnvironments (names.eraseDups.filter fun name => (s.environments.find? name).isSome) =
      s.withEnvironments names := by
  induction names using List.reverseRecOn with
  | nil => rfl
  | append_singleton names name ih =>
    rw [withEnvironments_concat, eraseDups_concat]
    have hfind := s.find?_withEnvironments names name
    by_cases hname : name ∈ names
    · rw [if_pos hname] at hfind ⊢
      rw [ih, withEnvironment_of_find?_eq_none hfind]
    · rw [if_neg hname] at hfind ⊢
      rw [List.filter_append]
      cases hknown : s.environments.find? name with
      | none =>
        rw [hknown] at hfind
        simp [hknown, ih, withEnvironment_of_find?_eq_none hfind]
      | some environment =>
        simp [hknown, withEnvironments_concat, ih]

/-- After several environments each setting is what the last of them that gives it says, where a name
counts at its first place only. A setting that none of them gives is as before, the environments that were
named are gone, and names that are repeated or that name no environment make no difference. -/
theorem withEnvironments_last_given (s : Settings) (names : List String) :
    (s.withEnvironments names).environments =
        s.environments.filter (fun entry => entry.1 ∉ names) ∧
      (s.withEnvironments names).options.mode =
        (s.lastGiven Environment.mode names).getD s.options.mode ∧
      (s.withEnvironments names).options.dialect =
        (s.lastGiven Environment.dialect names).getD s.options.dialect ∧
      (s.withEnvironments names).options.offset =
        (s.lastGiven Environment.offset names).getD s.options.offset ∧
      (s.withEnvironments names).options.filterType =
        (s.lastGiven Environment.filterType names).getD s.options.filterType ∧
      (s.withEnvironments names).logSql =
        (s.lastGiven Environment.logSql names).getD s.logSql ∧
      s.withEnvironments names = s.withEnvironments
        (names.eraseDups.filter fun name => (s.environments.find? name).isSome) := by
  refine ⟨s.environments_withEnvironments names, ?_, ?_, ?_, ?_, ?_,
    (s.withEnvironments_relevant names).symm⟩
  · exact withEnvironments_setting (·.options.mode) (fun s name => by rw [withEnvironment_eq]) s names
  · exact withEnvironments_setting (·.options.dialect) (fun s name => by rw [withEnvironment_eq]) s
      names
  · exact withEnvironments_setting (·.options.offset) (fun s name => by rw [withEnvironment_eq]) s names
  · exact withEnvironments_setting (·.options.filterType) (fun s name => by rw [withEnvironment_eq]) s
      names
  · exact withEnvironments_setting (·.logSql) (fun s name => by rw [withEnvironment_eq]) s names

end Settings

end FilterClause

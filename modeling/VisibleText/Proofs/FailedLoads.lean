import VisibleText.Proofs.SettingsHistory

/-!
# Loads that fail

A load that fails should leave nothing in service, so that whoever asks next has the settings put
together anew. It does if the settings are wrong: their file is missing or is not JSON, a variable
does not fit, or they violate the schema. A load that cannot read the file as text at all, because
it is not UTF-8 or a folder stands in its place, changes nothing
(`SettingsCache.failed_load_out_of_service_iff`). If it was forced on a cache that held settings,
these stay in service (`SettingsCache.not_forall_failed_load_out_of_service`).
-/

set_option autoImplicit false

namespace VisibleText.SettingsCache

variable {c c' : SettingsCache} {disk : Disk} {env : Environment} {force validate : Bool}

/-! ## Caches that hold nothing -/

/-- What a load comes to does not depend on what was loaded before. -/
theorem load_fst_eq (c : SettingsCache) (disk : Disk) (env : Environment) (validate : Bool) :
    (c.load disk env validate).1 = ((start c.source).load disk env validate).1 := by
  rw [load, load]
  have hsource : (start c.source).source = c.source := rfl
  rw [hsource]
  split
  · rfl
  · rfl
  · simp only
    split <;> rfl

/-- Every request fetches settings and answers with something of them, except that the cache is told
to forget them. -/
theorem respond_cases (e : SettingsEvent) :
    (∀ c : SettingsCache, c.respond e = (.ok .nothing, c.reset)) ∨
      ∃ force validate, ∃ answer : Json.Members → SettingsAnswer, ∀ c : SettingsCache,
        c.respond e = ((c.fetch e.disk e.env force validate).1.map answer,
          (c.fetch e.disk e.env force validate).2) := by
  obtain ⟨request, disk, env⟩ := e
  cases request with
  | load force validate => exact .inr ⟨force, validate, _, fun c => rfl⟩
  | get key | has key => exact .inr ⟨false, true, _, fun c => rfl⟩
  | reset => exact .inl fun c => rfl

/-- A cache out of service loads the settings again, whatever it is asked, and answers as one that
knows nothing yet. -/
theorem respond_fst_eq_of_not_loaded (h : c.isLoaded = false) (e : SettingsEvent) :
    (c.respond e).1 = ((start c.source).respond e).1 := by
  rcases respond_cases e with hreset | ⟨force, validate, answer, hfetch⟩
  · rw [hreset, hreset]
  · have hstart : (start c.source).isLoaded = false := rfl
    have hload := load_fst_eq c e.disk e.env validate
    rw [hfetch, hfetch, fetch, fetch, h, hstart]
    exact congrArg (Except.map answer) hload

/-! ## Requests that fail -/

/-- What fails is a fetch of the settings. -/
theorem exists_fetches_of_respond_eq_error {e : SettingsEvent} {error : LoadError}
    (h : (c.respond e).1 = .error error) :
    ∃ force validate, Fetches c e.disk e.env force validate (.error error) (c.respond e).2 := by
  rcases respond_cases e with hreset | ⟨force, validate, answer, hfetch⟩
  · rw [hreset] at h
    cases h
  · have hfetches := fetches_fetch c e.disk e.env force validate
    rw [hfetch] at h ⊢
    refine ⟨force, validate, ?_⟩
    cases hresult : (c.fetch e.disk e.env force validate).1 with
    | ok members =>
      rw [hresult] at h
      cases h
    | error error' =>
      rw [hresult] at h hfetches
      cases h
      exact hfetches

/-- A fetch that fails leaves nothing in service, or what was in service before. -/
theorem Fetches.of_error {error : LoadError}
    (h : Fetches c disk env force validate (.error error) c') :
    (∃ fault, error = .settings fault) ∧ c'.isLoaded = false ∨
      (∀ fault, error ≠ .settings fault) ∧ c'.isLoaded = c.isLoaded ∧ c'.members = c.members := by
  cases h with
  | wrong fault _ isLoaded => exact .inl ⟨⟨fault, rfl⟩, isLoaded⟩
  | unread _ _ no_fault isLoaded members_eq => exact .inr ⟨no_fault, isLoaded, members_eq⟩

/-- Behind any requests, a load that fails leaves nothing in service just if it has found the
settings wrong, or if nothing was in service before. Then the next request is answered from the
disk and the environment that it finds, as by a cache that knows nothing yet. Otherwise the settings
from before the failure go on being given out. -/
theorem failed_load_out_of_service_iff {source : SettingsSource} {history : List SettingsEvent}
    {e : SettingsEvent} {error : LoadError}
    (h : ((behind source history).respond e).1 = .error error) :
    ((behind source (history ++ [e])).isLoaded = false ↔
      (∃ fault, error = .settings fault) ∨ (behind source history).isLoaded = false) ∧
    ((behind source (history ++ [e])).isLoaded = false → ∀ next,
      ((behind source (history ++ [e])).respond next).1 = ((start source).respond next).1) ∧
    ((behind source (history ++ [e])).isLoaded = true → ∃ members,
      (behind source history).Holds members ∧ ∀ disk env validate,
        (behind source (history ++ [e])).fetch disk env false validate =
          (.ok members, behind source (history ++ [e]))) := by
  obtain ⟨force, validate, hfetches⟩ := exists_fetches_of_respond_eq_error h
  rw [← behind_concat] at hfetches
  refine ⟨?_, fun hgone next => ?_, fun hheld => ?_⟩
  · rcases hfetches.of_error with ⟨hfault, hgone⟩ | ⟨hnone, hkept, -⟩
    · exact iff_of_true hgone (.inl hfault)
    · rw [hkept, or_iff_right]
      rintro ⟨fault, rfl⟩
      exact hnone fault rfl
  · have hnext := respond_fst_eq_of_not_loaded hgone next
    rwa [source_behind] at hnext
  · rcases hfetches.of_error with ⟨-, hgone⟩ | ⟨-, hkept, hmembers⟩
    · rw [hgone] at hheld
      cases hheld
    · have holds : (behind source (history ++ [e])).Holds (behind source history).members :=
        ⟨hheld, hmembers⟩
      exact ⟨_, ⟨hkept.symm.trans hheld, rfl⟩, fun disk env validate =>
        holds.fetch_eq disk env validate⟩

/-! ## A settings file that is broken later -/

/-- A project whose settings file has some content. -/
def projectDisk (content : Bytes) : Disk :=
  .folder [(text "p", .folder [(Settings.defaultFile, .file content)])]

/-- Requests of which the first one loads settings. -/
def loadedHistory : List SettingsEvent :=
  [⟨.load false true, projectDisk (text "\x7b\"pages_dir\": \"site\"\x7d").bytes, []⟩]

/-- A load that is forced when the settings file holds a byte that starts no character. -/
def brokenLoad : SettingsEvent := ⟨.load true true, projectDisk [0xFF], []⟩

/-- The fault of the bytes of the file, if that is why a request failed. -/
def undecodable? : Except LoadError SettingsAnswer → Option DecodeFault
  | .error (.undecodable fault) => some fault
  | _ => none

theorem eq_error_of_undecodable? {result : Except LoadError SettingsAnswer} {fault : DecodeFault}
    (h : undecodable? result = some fault) : result = .error (.undecodable fault) := by
  unfold undecodable? at h
  split at h
  · rw [Option.some.inj h]
  · cases h

theorem respond_brokenLoad :
    ((behind (.ofFile [text "p"] none) loadedHistory).respond brokenLoad).1 =
      .error (.undecodable ⟨0, [0xFF], .start⟩) :=
  eq_error_of_undecodable? (by decide +kernel)

theorem isLoaded_behind_brokenLoad :
    (behind (.ofFile [text "p"] none) (loadedHistory ++ [brokenLoad])).isLoaded = true := by
  decide +kernel

/-- The settings that were loaded before the file was broken are given out as long as it is. -/
theorem failed_load_out_of_service_iff_of_broken_file : ∃ (source : SettingsSource)
    (history : List SettingsEvent) (e : SettingsEvent) (fault : DecodeFault)
    (members : Json.Members),
    ((behind source history).respond e).1 = .error (.undecodable fault) ∧
      (behind source history).Holds members ∧
      (behind source (history ++ [e])).fetch e.disk [] false true =
        (.ok members, behind source (history ++ [e])) := by
  have hall := failed_load_out_of_service_iff respond_brokenLoad
  obtain ⟨members, holds, hserved⟩ := hall.2.2 isLoaded_behind_brokenLoad
  exact ⟨_, _, _, _, members, respond_brokenLoad, holds, hserved brokenLoad.disk [] true⟩

/-- Not every load that fails leaves nothing in service: a forced one of a file that is not UTF-8
does not. -/
theorem not_forall_failed_load_out_of_service : ¬ ∀ (source : SettingsSource)
    (history : List SettingsEvent) (e : SettingsEvent) (error : LoadError),
    ((behind source history).respond e).1 = .error error →
      (behind source (history ++ [e])).isLoaded = false := by
  intro hall
  have hgone := hall _ _ _ _ respond_brokenLoad
  rw [isLoaded_behind_brokenLoad] at hgone
  cases hgone

end VisibleText.SettingsCache

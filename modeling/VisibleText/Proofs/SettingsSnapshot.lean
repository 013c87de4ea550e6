import VisibleText.Proofs.FailedLoads
import VisibleText.Proofs.Pieces
import VisibleText.Proofs.SettingsLayers

/-!
# What a cache of settings answers from

A cache that has settings is a snapshot: whatever becomes of the settings file and the environment,
it gives out the settings that the last load which succeeded has computed, from the file and the
environment as they were then, and giving them out changes nothing. A cache that has none, because
it was reset or because its last load found the settings wrong, computes them for the next request
(`SettingsCache.answers_from_snapshot`).

The proof goes along the requests. Each one leaves the cache as it is, empties it, or loads; and a
load that fails leaves it empty or as it was (`SettingsCache.Loads.outcome`).
-/

set_option autoImplicit false

namespace VisibleText

/-! ## Settings that are found -/

/-- A path of keys leads from a value to another one, through an object for each key. -/
inductive Json.LeadsTo : Json → List Text → Json → Prop where
  | here (value : Json) : LeadsTo value [] value
  | through {members : Members} {key : Text} {inner found : Json} {path : List Text}
      (find : members.find? key = some inner) (rest : LeadsTo inner path found) :
      LeadsTo (.object members) (key :: path) found

theorem Json.follow?_eq_some_iff {value found : Json} {path : List Text} :
    value.follow? path = some found ↔ LeadsTo value path found := by
  constructor
  · intro h
    induction path generalizing value with
    | nil =>
      cases h
      exact .here _
    | cons key path ih =>
      cases value with
      | object members =>
        rw [follow?_cons, Option.bind_eq_some_iff] at h
        obtain ⟨inner, hinner, h⟩ := h
        exact .through hinner (ih h)
      | null | bool | int | float | string | array => cases h
  · intro h
    induction h with
    | here => rfl
    | through find _ ih => rw [follow?_cons, find, Option.bind_some, ih]

/-- The parts of a key, which dots set apart, lead to a setting. -/
structure Json.Members.Resolves (members : Members) (key : Text) : Prop where
  exists_parts : ∃ (parts : List Text) (found : Json), parts ≠ [] ∧
    (∀ part ∈ parts, CodePoint.char '.' ∉ part) ∧ Text.join (text ".") parts = key ∧
      Json.LeadsTo (.object members) parts found

theorem Json.Members.setting?_isSome_iff {members : Members} {key : Text} :
    (members.setting? key).isSome = true ↔ members.Resolves key := by
  rw [Option.isSome_iff_exists, setting?]
  constructor
  · rintro ⟨found, h⟩
    exact ⟨_, found, Text.splitOn_ne_nil _ key, fun part => Text.not_mem_of_mem_splitOn,
      Text.join_splitOn _ key, Json.follow?_eq_some_iff.1 h⟩
  · rintro ⟨parts, found, hne, hparts, rfl, h⟩
    refine ⟨found, ?_⟩
    have hsplit : (Text.join (text ".") parts).splitOn (.char '.') = parts :=
      Text.splitOn_join hne hparts
    rw [hsplit]
    exact Json.follow?_eq_some_iff.2 h

/-! ## Requests -/

namespace SettingsRequest

/-- Whether a request only reads: it is content with the settings that are there. -/
def isRead : SettingsRequest → Bool
  | .load force _ => !force
  | .get _ | .has _ => true
  | .reset => false

/-- Whether settings are checked when they are put together for a request. -/
def validates : SettingsRequest → Bool
  | .load _ validate => validate
  | .get _ | .has _ | .reset => true

/-- What is answered to a request from some settings. -/
def answer : SettingsRequest → Json.Members → SettingsAnswer
  | .load _ _, members => .settings members
  | .get key, members => .value (members.setting? key)
  | .has key, members => .truth (members.setting? key).isSome
  | .reset, _ => .nothing

/-- A key is there just if its parts lead to a setting. -/
theorem answer_has_iff {key : Text} {members : Json.Members} :
    (has key).answer members = .truth true ↔ members.Resolves key := by
  rw [← Json.Members.setting?_isSome_iff, answer, SettingsAnswer.truth.injEq]

theorem ne_reset_of_isRead {request : SettingsRequest} (h : request.isRead = true) :
    request ≠ .reset := by
  rintro rfl
  cases h

end SettingsRequest

/-- The settings that a request would be given if nothing were loaded yet: those that the settings
file and the environment make at its moment. -/
def SettingsEvent.computed (e : SettingsEvent) (source : SettingsSource) :
    Except LoadError Json.Members :=
  ((SettingsCache.start source).load e.disk e.env e.request.validates).1

namespace SettingsCache

variable {c : SettingsCache} {e : SettingsEvent} {source : SettingsSource}
  {history : List SettingsEvent} {members : Json.Members}

/-- Settings are fetched for every request but a reset. -/
theorem respond_eq (h : e.request ≠ .reset) : c.respond e =
    ((c.fetch e.disk e.env (!e.request.isRead) e.request.validates).1.map e.request.answer,
      (c.fetch e.disk e.env (!e.request.isRead) e.request.validates).2) := by
  obtain ⟨request, disk, env⟩ := e
  cases request with
  | load force validate => cases force <;> rfl
  | get key => rfl
  | has key => rfl
  | reset => exact absurd rfl h

/-- What a cache holds is given out as it is. -/
theorem Holds.respond_eq (h : c.Holds members) (hread : e.request.isRead = true) :
    c.respond e = (.ok (e.request.answer members), c) := by
  rw [SettingsCache.respond_eq (SettingsRequest.ne_reset_of_isRead hread), hread, Bool.not_true,
    h.fetch_eq]
  rfl

/-! ## Requests that load -/

/-- Settings are put together for a request: it is no reset, and it is not content with settings
that are there. -/
structure Loads (c : SettingsCache) (request : SettingsRequest) : Prop where
  ne_reset : request ≠ .reset
  not_content : c.isLoaded = true → request.isRead = false

/-- A cache without settings has to load them for any request but a reset. -/
theorem Loads.of_not_loaded {request : SettingsRequest} (h : c.isLoaded = false)
    (ne_reset : request ≠ .reset) : c.Loads request := by
  refine ⟨ne_reset, fun hloaded => ?_⟩
  rw [h] at hloaded
  cases hloaded

theorem Loads.fetch_eq (h : c.Loads e.request) :
    c.fetch e.disk e.env (!e.request.isRead) e.request.validates =
      c.load e.disk e.env e.request.validates := by
  rw [fetch, if_neg]
  rw [Bool.and_eq_true, Bool.not_not]
  rintro ⟨hloaded, hread⟩
  rw [h.not_content hloaded] at hread
  cases hread

/-- What is fetched is what the file and the environment make at that moment. -/
theorem Loads.fetch_fst_eq (h : c.Loads e.request) :
    (c.fetch e.disk e.env (!e.request.isRead) e.request.validates).1 = e.computed c.source := by
  rw [h.fetch_eq, load_fst_eq, SettingsEvent.computed]

/-- A load puts what it has computed into the cache, or it fails. If it fails, the cache has no
settings or those that it had before. -/
theorem Loads.outcome (h : c.Loads e.request) :
    (∃ members, e.computed c.source = .ok members ∧ (c.respond e).2.Holds members) ∨
    (∀ members, e.computed c.source ≠ .ok members) ∧
      ((c.respond e).2.isLoaded = false ∨
        (c.respond e).2.isLoaded = c.isLoaded ∧ (c.respond e).2.members = c.members) := by
  have hfetches := fetches_fetch c e.disk e.env (!e.request.isRead) e.request.validates
  rw [h.fetch_fst_eq] at hfetches
  rw [respond_eq h.ne_reset]
  generalize (c.fetch e.disk e.env (!e.request.isRead) e.request.validates).2 = c' at hfetches ⊢
  generalize e.computed c.source = result at hfetches ⊢
  cases hfetches with
  | kept isLoaded not_forced =>
    rw [h.not_content isLoaded] at not_forced
    cases not_forced
  | wrong fault _ isLoaded => exact .inr ⟨fun _ => nofun, .inl isLoaded⟩
  | unread error _ _ isLoaded members_eq =>
    exact .inr ⟨fun _ => nofun, .inr ⟨isLoaded, members_eq⟩⟩
  | loaded members _ _ holds => exact .inl ⟨members, rfl, holds⟩

/-! ## The last load that succeeded -/

/-- Behind some requests, the last one for which settings were put together with success has
computed some settings: it has loaded them, and of those that came later none has loaded any. -/
structure LastComputed (source : SettingsSource) (history : List SettingsEvent)
    (members : Json.Members) : Prop where
  exists_load : ∃ (before : List SettingsEvent) (e : SettingsEvent) (after : List SettingsEvent),
    history = before ++ e :: after ∧ (behind source before).Loads e.request ∧
      e.computed source = .ok members ∧
        ∀ since e' rest, after = since ++ e' :: rest →
          (behind source (before ++ e :: since)).Loads e'.request →
            ∀ members', e'.computed source ≠ .ok members'

theorem LastComputed.of_load (h : (behind source history).Loads e.request)
    (hcomputed : e.computed source = .ok members) :
    LastComputed source (history ++ [e]) members := by
  refine ⟨history, e, [], rfl, h, hcomputed, ?_⟩
  intro since e' rest hsplit
  exact absurd hsplit.symm (List.append_ne_nil_of_right_ne_nil since (List.cons_ne_nil e' rest))

/-- A request that loads nothing does not count. -/
theorem LastComputed.concat (h : LastComputed source history members)
    (hfails : (behind source history).Loads e.request →
      ∀ members', e.computed source ≠ .ok members') :
    LastComputed source (history ++ [e]) members := by
  obtain ⟨before, first, after, rfl, hloads, hcomputed, hlater⟩ := h.exists_load
  refine ⟨before, first, after ++ [e], by simp, hloads, hcomputed, ?_⟩
  intro since e' rest hsplit
  -- the request in question is the new one, or it stood there before
  rcases List.eq_nil_or_concat rest with rfl | ⟨rest, last, rfl⟩
  · obtain ⟨rfl, heq⟩ := List.append_inj' hsplit rfl
    cases heq
    exact hfails
  · have hsplit' : after ++ [e] = (since ++ e' :: rest) ++ [last] := by
      rw [hsplit, List.append_assoc, List.cons_append, List.concat_eq_append]
    exact hlater since e' rest (List.append_inj' hsplit' rfl).1

/-- A cache that has settings holds what the last load which succeeded has computed. -/
theorem exists_lastComputed (h : (behind source history).isLoaded = true) :
    ∃ members, (behind source history).Holds members ∧ LastComputed source history members := by
  induction history using List.reverseRecOn with
  | nil => cases h
  | append_singleton history e ih =>
    rw [behind_concat] at h ⊢
    by_cases hreset : e.request = .reset
    · obtain ⟨request, disk, env⟩ := e
      obtain rfl : request = .reset := hreset
      cases h
    by_cases hloads : (behind source history).Loads e.request
    · have houtcome := hloads.outcome
      rw [source_behind] at houtcome
      rcases houtcome with ⟨members, hcomputed, holds⟩ | ⟨hfails, hempty | ⟨hkept, hmembers⟩⟩
      · exact ⟨members, holds, .of_load hloads hcomputed⟩
      · rw [hempty] at h
        cases h
      · rw [hkept] at h
        obtain ⟨members, holds, hlast⟩ := ih h
        exact ⟨members, ⟨hkept.trans h, hmembers.trans holds.members_eq⟩,
          hlast.concat fun _ => hfails⟩
    · -- the request was content with what the cache had
      have hcontent : (behind source history).isLoaded = true ∧ e.request.isRead = true := by
        by_contra hnot
        refine hloads ⟨hreset, fun hloaded => ?_⟩
        rw [← Bool.not_eq_true]
        exact fun hread => hnot ⟨hloaded, hread⟩
      obtain ⟨members, holds, hlast⟩ := ih hcontent.1
      rw [holds.respond_eq hcontent.2]
      exact ⟨members, holds, hlast.concat fun h => absurd h hloads⟩

/-- Behind any requests, whatever happened to the settings file and the environment: a cache that
has settings answers whoever is content with them from what the last load which succeeded has
computed, and stays as it is. One that has none answers from what the file and the environment make
at that moment, and one that was just reset has none. A key is there just if its parts lead to a
setting. -/
theorem answers_from_snapshot (source : SettingsSource) (history : List SettingsEvent) :
    ((behind source history).isLoaded = true → ∃ members, LastComputed source history members ∧
      (∀ e, e.request.isRead = true →
        (behind source history).respond e =
          (.ok (e.request.answer members), behind source history)) ∧
      ∀ disk env, (behind source history).settings disk env =
        (.ok members, behind source history)) ∧
    ((behind source history).isLoaded = false →
      (∀ e, e.request ≠ .reset →
        ((behind source history).respond e).1 = (e.computed source).map e.request.answer) ∧
      ∀ disk env, ((behind source history).settings disk env).1 =
        ((start source).load disk env true).1) ∧
    (∀ disk env, (behind source (history ++ [⟨.reset, disk, env⟩])).isLoaded = false) ∧
    ∀ key members, (SettingsRequest.has key).answer members = .truth true ↔
      members.Resolves key := by
  refine ⟨?_, ?_, ?_, ?_⟩
  · intro hloaded
    obtain ⟨members, holds, hlast⟩ := exists_lastComputed hloaded
    refine ⟨members, hlast, ?_, ?_⟩
    · intro e hread
      exact holds.respond_eq hread
    · intro disk env
      exact holds.fetch_eq disk env true
  · intro hempty
    refine ⟨?_, ?_⟩
    · intro e hreset
      have hloads : (behind source history).Loads e.request := .of_not_loaded hempty hreset
      rw [respond_eq hreset, hloads.fetch_fst_eq, source_behind]
    · intro disk env
      rw [settings, fetch, hempty, Bool.false_and, if_neg Bool.false_ne_true, load_fst_eq,
        source_behind]
  · intro disk env
    rw [behind_concat]
    rfl
  · intro key members
    exact SettingsRequest.answer_has_iff

/-- The text that is answered to a request, if it is the text of a setting. -/
def servedText? : Except LoadError SettingsAnswer → Option Text
  | .ok (.value (some (.string t))) => some t
  | _ => none

/-- The folder of the pages is served as the file named it when it was loaded, though the file has
changed since; after a reset it is served as the file names it now. -/
theorem answers_from_snapshot_of_changed_file : ∃ (source : SettingsSource)
    (history : List SettingsEvent) (changed : Disk) (members : Json.Members),
    LastComputed source history members ∧
      servedText? ((behind source history).respond ⟨.get (text "pages_dir"), changed, []⟩).1 =
        some (text "site") ∧
      ((behind source history).respond ⟨.get (text "pages_dir"), changed, []⟩).1 =
        .ok (.value (members.setting? (text "pages_dir"))) ∧
      servedText? ((behind source (history ++ [⟨.reset, changed, []⟩])).respond
        ⟨.get (text "pages_dir"), changed, []⟩).1 = some (text "pages") := by
  let source : SettingsSource := .ofFile [text "p"] none
  let changed : Disk := projectDisk (text "\x7b\"pages_dir\": \"pages\"\x7d").bytes
  have hloaded : (behind source loadedHistory).isLoaded = true := by decide +kernel
  have hbefore : servedText? ((behind source loadedHistory).respond
      ⟨.get (text "pages_dir"), changed, []⟩).1 = some (text "site") := by decide +kernel
  have hafter : servedText? ((behind source (loadedHistory ++ [⟨.reset, changed, []⟩])).respond
      ⟨.get (text "pages_dir"), changed, []⟩).1 = some (text "pages") := by decide +kernel
  obtain ⟨members, hlast, hreads, -⟩ := (answers_from_snapshot source loadedHistory).1 hloaded
  have hserved := hreads ⟨.get (text "pages_dir"), changed, []⟩ rfl
  exact ⟨source, loadedHistory, changed, members, hlast, hbefore, congrArg Prod.fst hserved, hafter⟩

end SettingsCache

end VisibleText

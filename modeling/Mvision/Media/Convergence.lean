import Mvision.Media.Isolation
import Mvision.Media.StalePaths

/-!
# Convergence

MediaMTX stores the config of the last write of a path and answers with it.  A source whose
scheme is not in lower case becomes a config that a pass does not recognize as its own.
-/

namespace Mvision.Media

open Mvision.Library
open Mvision.Live (Json MediaState)

/-- `_validate_source_url` -/
def validateSourceUrl (tables : Url.Tables) (allowedSchemes : List (List Char)) (raw : String) :
    Bool :=
  raw.toList.all (fun c => 32 ≤ c.toNat && c.toNat ≠ 127) &&
    Url.valid tables allowedSchemes raw.toList

/-! ## Stored paths -/

structure StoredPath where
  name : String
  config : IngressConfig
deriving DecidableEq

abbrev StoredPaths := Table StoredPath.name

/-- The config as MediaMTX returns it. -/
def IngressConfig.json (config : IngressConfig) : JsonObject :=
  ("source", .string config.source) ::
    (config.rtspTransport.map fun transport => ("rtspTransport", .string transport)).toList

def StoredPath.item (row : StoredPath) : JsonObject := ("name", .string row.name) :: row.config.json

/-- A call changes what MediaMTX stores unless it fails. -/
def applyCall (media : MediaMtx) (paths : StoredPaths) : MediaCall → StoredPaths
  | .addPath name config =>
      if (media.add name config).outcome = .ok () then paths.put ⟨name, config⟩ else paths
  | .replacePath name config =>
      if (media.replace name config).outcome = .ok () then paths.put ⟨name, config⟩ else paths
  | .deletePath name =>
      if (media.delete name).outcome = .ok () then paths.erase name else paths
  | _ => paths

def applyCalls (media : MediaMtx) (paths : StoredPaths) (calls : List MediaCall) : StoredPaths :=
  calls.foldl (applyCall media) paths

/-- What MediaMTX answers in a pass, if it answers, is what it stores. -/
structure AnswersFrom (paths : StoredPaths) (pass : Pass) : Prop where
  getConfigPath : ∀ name current, pass.media.getConfigPath name = .ok current →
    current = (paths.get name).map fun row => row.config.json
  listConfigPaths : ∀ configured, pass.media.listConfigPaths = .ok configured →
    configured = (applyCalls pass.media paths pass.recorded.calls).rows.map StoredPath.item

/-- MediaMTX answers a call without an error. -/
def MediaMtx.Answers (media : MediaMtx) : MediaCall → Prop
  | .getConfigPath name => ∃ current, media.getConfigPath name = .ok current
  | .addPath name _ => media.addPath name = .ok ()
  | .replacePath name _ => media.replacePath name = .ok ()
  | .getActivePath name => ∃ active, media.getActivePath name = .ok active
  | .listConfigPaths => ∃ configured, media.listConfigPaths = .ok configured
  | .deletePath name => media.deletePath name = .ok ()

/-! ## Runs -/

/-- A pass that is to come, and what the service and MediaMTX hold before it. -/
structure Moment where
  staleSince : StaleSince
  paths : StoredPaths
  pass : Pass

namespace Moment

variable (service : Service) (moment : Moment)

def result : PassResult := reconcileOnce service moment.staleSince moment.pass

/-- What MediaMTX stores after the pass. -/
def pathsAfter : StoredPaths :=
  applyCalls moment.pass.media moment.paths (moment.result service).calls

end Moment

/-- The passes of a service, one after the other. -/
def moments (service : Service) : StaleSince → StoredPaths → List Pass → List Moment
  | _, _, [] => []
  | stale, paths, pass :: passes =>
      let moment := Moment.mk stale paths pass
      moment :: moments service (moment.result service).staleSince (moment.pathsAfter service) passes

/-- What a pass wants of a generation does not depend on the columns that it writes. -/
def LiveSessionGeneration.wanted (g : LiveSessionGeneration) : LiveSessionGeneration :=
  { g with mediaState := .provisioning, errorCode := none }

/-- The database: no two generations have the same ingress path. -/
structure Wanted where
  generations : Generations
  cipher : Cipher
  unique : (generations.rows.map LiveSessionGeneration.ingressPath).Nodup

/-- A pass reads the same generations but for the columns that passes write. -/
def Wanted.ReadBy (wanted : Wanted) (pass : Pass) : Prop :=
  pass.cipher = wanted.cipher ∧
    (listReconcilable pass.generations).map LiveSessionGeneration.wanted =
      (listReconcilable wanted.generations).map LiveSessionGeneration.wanted

/-- A pass writes no config, and deletes no path if none is stale. -/
def Quiet (service : Service) (moment : Moment) : Prop :=
  (∀ name config, .addPath name config ∉ (moment.result service).calls ∧
    .replacePath name config ∉ (moment.result service).calls) ∧
  ((∀ row ∈ moment.paths.rows, startsWith row.name service.ownedPrefix = true →
      row.name ∈ moment.pass.desired) →
    ∀ name, .deletePath name ∉ (moment.result service).calls)

/-- After a pass in which every call succeeds, every pass is quiet. -/
def Converges (service : Service) (wanted : Wanted) : Prop :=
  ∀ stale paths first passes,
    (∀ pass ∈ first :: passes, wanted.ReadBy pass) →
    (∀ moment ∈ moments service stale paths (first :: passes),
      AnswersFrom moment.paths moment.pass) →
    (∀ call ∈ (reconcileOnce service stale first).calls, first.media.Answers call) →
    ∀ moment ∈ (moments service stale paths (first :: passes)).tail, Quiet service moment

/-- The sources that are pulled by RTSP have their scheme in lower case. -/
def LowerCaseSchemes (wanted : Wanted) : Prop :=
  ∀ g ∈ listReconcilable wanted.generations, g.sourceType = .rtspPull →
    path g.ingressPath = .ok () → ∀ url, sourceUrl wanted.cipher g.sourceCiphertext = .ok (some url) →
      startsWithEither (lower url) "rtsp://" "rtsps://" = true →
        startsWithEither url "rtsp://" "rtsps://" = true

/-! ## Configs that the service makes -/

section Configs

variable {config desired : IngressConfig} {sourceType : Live.SourceType} {url : Option String}

theorem normalized_json (config : IngressConfig) :
    normalized config.json = .ok ⟨.string config.source,
      if startsWithEither config.source "rtsp://" "rtsps://" = true then
        some (config.rtspTransport.elim .null .string) else none⟩ := by
  unfold normalized IngressConfig.json
  rw [List.lookup_cons_self]
  dsimp only
  split
  · cases config.rtspTransport <;> rfl
  · rfl

/-- The service does not replace a stored config by the desired one. -/
def Recognized (config desired : IngressConfig) : Prop :=
  ∃ stored, normalized config.json = .ok stored ∧ stored.equals desired = true

theorem recognized_iff :
    Recognized config desired ↔ config.source = desired.source ∧
      if startsWithEither config.source "rtsp://" "rtsps://" = true then
        ∃ transport, config.rtspTransport = some transport ∧ desired.rtspTransport = some transport
      else desired.rtspTransport = none := by
  unfold Recognized
  rw [normalized_json]
  simp only [Except.ok.injEq, exists_eq_left', NormalizedConfig.equals, Json.isText, Bool.and_eq_true,
    beq_iff_eq]
  refine and_congr_right fun _ => ?_
  by_cases hrtsp : startsWithEither config.source "rtsp://" "rtsps://" = true
  · rw [if_pos hrtsp, if_pos hrtsp]
    cases desired.rtspTransport with
    | none => exact iff_of_false (by rintro ⟨⟩) (by rintro ⟨transport, -, ⟨⟩⟩)
    | some text =>
        simp only [Option.some.injEq, exists_eq_right']
        cases config.rtspTransport with
        | none => exact iff_of_false (by rintro ⟨⟩) (by rintro ⟨⟩)
        | some stored => exact beq_iff_eq.trans (Option.some.injEq ..).symm.to_iff
  · rw [if_neg hrtsp, if_neg hrtsp]
    cases desired.rtspTransport with
    | none => exact iff_of_true rfl rfl
    | some text => exact iff_of_false (by rintro ⟨⟩) (by rintro ⟨⟩)

theorem head_of_startsWithEither {value first second : String} {c : Char}
    (hfirst : first.toList.head? = some c) (hsecond : second.toList.head? = some c)
    (h : startsWithEither value first second = true) : value.toList.head? = some c := by
  have hhead {start : String} (hstart : start.toList.head? = some c)
      (h : startsWith value start = true) : value.toList.head? = some c := by
    obtain ⟨rest, hrest⟩ := List.isPrefixOf_iff_prefix.mp h
    rw [← hrest, List.head?_append, hstart]
    rfl
  rcases Bool.or_eq_true _ _ ▸ h with h | h
  · exact hhead hfirst h
  · exact hhead hsecond h

/-- No source that is pulled by WHEP looks like one that is pulled by RTSP. -/
theorem startsWithEither_whep {text : String}
    (h : startsWithEither (lower text) "whep://" "wheps://" = true) :
    startsWithEither text "rtsp://" "rtsps://" = false := by
  rw [Bool.eq_false_iff]
  intro hrtsp
  have hr : text.toList.head? = some 'r' := head_of_startsWithEither rfl rfl hrtsp
  have hw : (lower text).toList.head? = some 'w' := head_of_startsWithEither rfl rfl h
  rw [lower, String.toList_ofList, lowerAscii, List.head?_map, hr] at hw
  cases hw

/-- What the service wants of a path: a transport only for a source that is pulled by RTSP. -/
theorem ingressConfig_cases (h : ingressConfig sourceType url = .ok desired) :
    (∃ text, sourceType = .rtspPull ∧ url = some text ∧
      startsWithEither (lower text) "rtsp://" "rtsps://" = true ∧
      desired = ⟨text, some "tcp"⟩) ∨
    desired.rtspTransport = none ∧
      startsWithEither desired.source "rtsp://" "rtsps://" = false := by
  unfold ingressConfig at h
  split at h
  · obtain rfl := Except.ok.inj h
    exact .inr ⟨rfl, by decide⟩
  · rename_i text
    split at h
    · rename_i hlower
      exact .inl ⟨text, rfl, rfl, hlower, (Except.ok.inj h).symm⟩
    · cases h
  · split at h
    · rename_i hlower
      obtain rfl := Except.ok.inj h
      exact .inr ⟨rfl, startsWithEither_whep hlower⟩
    · cases h
  · cases h

end Configs

/-! ## The effect of the calls -/

/-- The path that a call writes. -/
def MediaCall.written : MediaCall → Option String
  | .addPath name _ => some name
  | .replacePath name _ => some name
  | .deletePath name => some name
  | _ => none

section Effects

variable {media : MediaMtx} {paths : StoredPaths} {calls : List MediaCall} {name : String}

theorem get_applyCall_of_ne {call : MediaCall} (h : call.written ≠ some name) :
    (applyCall media paths call).get name = paths.get name := by
  cases call with
  | addPath other config =>
      have hne : name ≠ other := fun heq => h (heq ▸ rfl)
      dsimp only [applyCall]
      split
      · exact Table.get_put_of_ne (r := StoredPath.mk other config) hne
      · rfl
  | replacePath other config =>
      have hne : name ≠ other := fun heq => h (heq ▸ rfl)
      dsimp only [applyCall]
      split
      · exact Table.get_put_of_ne (r := StoredPath.mk other config) hne
      · rfl
  | deletePath other =>
      have hne : name ≠ other := fun heq => h (heq ▸ rfl)
      dsimp only [applyCall]
      split
      · exact Table.get_erase_of_ne hne
      · rfl
  | getConfigPath other => rfl
  | getActivePath other => rfl
  | listConfigPaths => rfl

/-- Calls that write other paths leave a path as it is. -/
theorem get_applyCalls_of_ne (h : ∀ call ∈ calls, call.written ≠ some name) :
    (applyCalls media paths calls).get name = paths.get name := by
  unfold applyCalls
  induction calls generalizing paths with
  | nil => rfl
  | cons call rest ih =>
      rw [List.forall_mem_cons] at h
      rw [List.foldl_cons, ih h.2, get_applyCall_of_ne h.1]

theorem applyCalls_eq_self (h : ∀ call ∈ calls, call.written = none) :
    applyCalls media paths calls = paths := by
  unfold applyCalls
  induction calls generalizing paths with
  | nil => rfl
  | cons call rest ih =>
      rw [List.forall_mem_cons] at h
      have hfirst : applyCall media paths call = paths := by
        cases call <;> first | rfl | cases h.1
      rw [List.foldl_cons, hfirst, ih h.2]

theorem applyCalls_append (more : List MediaCall) :
    applyCalls media paths (calls ++ more) = applyCalls media (applyCalls media paths calls) more :=
  List.foldl_append ..

end Effects

/-! ## The calls for a generation -/

theorem Calling.lift_bind_of_ok {α β : Type} {x : Except Raised α} {a : α} (h : x = .ok a)
    (f : α → Calling β) : Calling.lift x >>= f = f a := by
  subst h
  rfl

section Calls

variable {media : MediaMtx} {cipher : Cipher} {paths : StoredPaths} {name : String}
  {desired : IngressConfig} {g : LiveSessionGeneration} {url : Option String}

/-- The answers about single paths are what MediaMTX stores. -/
def Serves (media : MediaMtx) (paths : StoredPaths) : Prop :=
  ∀ name current, media.getConfigPath name = .ok current →
    current = (paths.get name).map fun row => row.config.json

/-- A path is not read, or it is as wanted, or it is written. -/
theorem ensurePath_cases (name : String) (desired : IngressConfig)
    (hserves : Serves media paths) :
    ((∀ current, (media.getConfig name).outcome ≠ .ok current) ∧
      (ensurePath media name desired).calls = [.getConfigPath name]) ∨
    (∃ row, paths.get name = some row ∧ Recognized row.config desired ∧
      (ensurePath media name desired).calls = [.getConfigPath name]) ∨
    path name = .ok () ∧ (∀ row, paths.get name = some row → ¬ Recognized row.config desired) ∧
      ∃ write, (write = .addPath name desired ∨ write = .replacePath name desired) ∧
        (ensurePath media name desired).calls = [.getConfigPath name, write] := by
  unfold ensurePath
  cases hconfig : (media.getConfig name).outcome with
  | error e =>
      rw [Calling.bind_of_error hconfig]
      exact .inl ⟨by rintro _ ⟨⟩, rfl⟩
  | ok current =>
      rw [Calling.bind_of_ok hconfig]
      obtain ⟨hpath, hanswer⟩ := getConfig_eq_ok_iff.mp hconfig
      obtain rfl := hserves name current hanswer
      refine .inr ?_
      cases paths.get name with
      | none => exact .inr ⟨hpath, by rintro _ ⟨⟩, _, .inl rfl, rfl⟩
      | some row =>
          dsimp only [Option.map_some]
          obtain ⟨stored, hstored⟩ : ∃ stored, normalized row.config.json = .ok stored :=
            ⟨_, normalized_json row.config⟩
          rw [Calling.lift_bind_of_ok hstored]
          split
          · rename_i hequals
            exact .inl ⟨row, rfl, ⟨stored, hstored, hequals⟩, rfl⟩
          · rename_i hdiffers
            refine .inr ⟨hpath, ?_, _, .inr rfl, rfl⟩
            rintro _ ⟨⟩ ⟨same, hsame, hequals⟩
            obtain rfl := Except.ok.inj (hstored.symm.trans hsame)
            exact hdiffers hequals

/-- Stored configs have texts as sources. -/
theorem not_oddSource (hserves : Serves media paths) : ¬ OddSource media cipher g := by
  rintro ⟨url, desired, current, value, -, -, -, hanswer, hvalue, hother⟩
  have hcurrent := hserves _ _ hanswer
  cases hrow : paths.get g.ingressPath with
  | none =>
      rw [hrow] at hcurrent
      cases hcurrent
  | some row =>
      rw [hrow] at hcurrent
      obtain rfl := Option.some.inj hcurrent
      have hsource : row.config.json.lookup "source" = some (.string row.config.source) :=
        List.lookup_cons_self
      exact hother _ (Option.some.inj (hvalue.symm.trans hsource))

theorem written_mediaStateOf {call : MediaCall} (h : call ∈ (mediaStateOf media cipher g).calls) :
    call.written = none ∨ call.written = some g.ingressPath := by
  rcases calls_mediaStateOf h with rfl | rfl | ⟨config, rfl | rfl⟩
  · exact .inl rfl
  · exact .inl rfl
  · exact .inr rfl
  · exact .inr rfl

/-- The calls for a generation with a source: those that make its path, and no other write. -/
theorem calls_mediaStateOf_eq (media : MediaMtx)
    (hurl : sourceUrl cipher g.sourceCiphertext = .ok url)
    (hdesired : ingressConfig g.sourceType url = .ok desired) :
    ∃ rest, (∀ call ∈ rest, call.written = none) ∧
      (mediaStateOf media cipher g).calls =
        (ensurePath media g.ingressPath desired).calls ++ rest := by
  unfold mediaStateOf
  rw [Calling.lift_bind_of_ok hurl, Calling.lift_bind_of_ok hdesired]
  cases hensure : (ensurePath media g.ingressPath desired).outcome with
  | error e =>
      rw [Calling.bind_of_error hensure]
      exact ⟨[], List.forall_mem_nil _, (List.append_nil _).symm⟩
  | ok done =>
      rw [Calling.bind_of_ok hensure]
      refine ⟨_, fun call hcall => ?_, rfl⟩
      rcases Calling.mem_calls_bind.mp hcall with hcall | ⟨active, -, hcall⟩
      · rw [List.mem_singleton.mp hcall]
        rfl
      · cases hcall

/-- A generation is the reason for a write only if it has a source. -/
theorem wanted_of_mem_calls {call : MediaCall} (h : call ∈ (mediaStateOf media cipher g).calls) :
    ∃ url desired, sourceUrl cipher g.sourceCiphertext = .ok url ∧
      ingressConfig g.sourceType url = .ok desired := by
  unfold mediaStateOf at h
  rcases Calling.mem_calls_bind.mp h with h | ⟨url, hurl, h⟩
  · cases h
  rcases Calling.mem_calls_bind.mp h with h | ⟨desired, hdesired, -⟩
  · cases h
  exact ⟨url, desired, hurl, hdesired⟩

/-- The path has the desired config, or one that is recognized as such. -/
def Held (paths : StoredPaths) (name : String) (desired : IngressConfig) : Prop :=
  ∃ row, paths.get name = some row ∧ (row.config = desired ∨ Recognized row.config desired)

/-- The calls for a generation make its path as desired if they are answered. -/
theorem held_after_calls {now : StoredPaths} (hserves : Serves media paths)
    (hanswers : ∀ call ∈ (mediaStateOf media cipher g).calls, media.Answers call)
    (hurl : sourceUrl cipher g.sourceCiphertext = .ok url)
    (hdesired : ingressConfig g.sourceType url = .ok desired)
    (hpath : path g.ingressPath = .ok ())
    (hnow : now.get g.ingressPath = paths.get g.ingressPath) :
    Held (applyCalls media now (mediaStateOf media cipher g).calls) g.ingressPath desired := by
  obtain ⟨rest, hrest, hcalls⟩ := calls_mediaStateOf_eq media hurl hdesired
  rw [hcalls] at hanswers ⊢
  rw [applyCalls_append, applyCalls_eq_self hrest]
  rcases ensurePath_cases g.ingressPath desired hserves with
    ⟨hunread, h⟩ | ⟨row, hrow, hrecognized, h⟩ | ⟨-, -, write, hwrite, h⟩
  · rw [h] at hanswers
    obtain ⟨current, hcurrent⟩ := hanswers (.getConfigPath g.ingressPath) (by simp)
    exact absurd (getConfig_eq_ok_iff.mpr ⟨hpath, hcurrent⟩) (hunread current)
  · rw [h, applyCalls_eq_self (by simp [MediaCall.written])]
    exact ⟨row, hnow.trans hrow, .inr hrecognized⟩
  · rw [h] at hanswers ⊢
    have hanswer := hanswers write (by simp)
    -- whichever write it is, the path has the desired config after it
    have hput : applyCalls media now [.getConfigPath g.ingressPath, write] =
        now.put ⟨g.ingressPath, desired⟩ := by
      rcases hwrite with rfl | rfl
      · have hok : (media.add g.ingressPath desired).outcome = .ok () := by
          show (path g.ingressPath >>= fun _ => (media.addPath g.ingressPath).mapError _) = _
          rw [hpath, show media.addPath g.ingressPath = .ok () from hanswer]
          rfl
        exact if_pos hok
      · have hok : (media.replace g.ingressPath desired).outcome = .ok () := by
          show (path g.ingressPath >>= fun _ => (media.replacePath g.ingressPath).mapError _) = _
          rw [hpath, show media.replacePath g.ingressPath = .ok () from hanswer]
          rfl
        exact if_pos hok
    rw [hput]
    exact ⟨⟨g.ingressPath, desired⟩, Table.get_put_self .., .inl rfl⟩

end Calls

/-! ## The loop over the generations -/

section Loop

variable {media : MediaMtx} {cipher : Cipher} {paths : StoredPaths}
  {running : List LiveSessionGeneration}

/-- The loop makes the calls for one generation after the other. -/
theorem calls_recordStates_eq {generations : Generations} (hserves : Serves media paths) :
    (recordStates media cipher generations running).calls =
      running.flatMap fun g => (mediaStateOf media cipher g).calls := by
  unfold recordStates
  induction running generalizing generations with
  | nil => rfl
  | cons g rest ih =>
      rcases recordState_cases media cipher generations g with ⟨hodd, -⟩ | ⟨-, errorCode, hfirst⟩
      · exact absurd hodd (not_oddSource hserves)
      · rw [List.foldlM_cons, Calling.bind_of_ok hfirst, List.flatMap_cons, calls_recordState]
        exact congrArg _ ih

/-- What the calls for other generations write is not the path of a generation. -/
theorem get_applyCalls_of_others {now : StoredPaths} {name : String}
    (h : ∀ g ∈ running, g.ingressPath ≠ name) :
    (applyCalls media now (running.flatMap fun g => (mediaStateOf media cipher g).calls)).get name =
      now.get name := by
  apply get_applyCalls_of_ne
  intro call hcall
  obtain ⟨g, hg, hcall⟩ := List.mem_flatMap.mp hcall
  rcases written_mediaStateOf hcall with hw | hw
  · rw [hw]
    rintro ⟨⟩
  · rw [hw]
    exact fun heq => h g hg (Option.some.inj heq)

/-- After a loop whose calls are answered every generation has its path. -/
theorem held_after_loop {g : LiveSessionGeneration} {url : Option String} {desired : IngressConfig}
    (hunique : (running.map LiveSessionGeneration.ingressPath).Nodup)
    (hserves : Serves media paths)
    (hanswers : ∀ g ∈ running, ∀ call ∈ (mediaStateOf media cipher g).calls, media.Answers call)
    (hg : g ∈ running) (hpath : path g.ingressPath = .ok ())
    (hurl : sourceUrl cipher g.sourceCiphertext = .ok url)
    (hdesired : ingressConfig g.sourceType url = .ok desired) :
    Held (applyCalls media paths (running.flatMap fun g => (mediaStateOf media cipher g).calls))
      g.ingressPath desired := by
  obtain ⟨before, after, rfl⟩ := List.append_of_mem hg
  rw [List.map_append, List.map_cons, List.nodup_middle, List.nodup_cons, List.mem_append,
    not_or] at hunique
  obtain ⟨⟨hbefore, hafter⟩, -⟩ := hunique
  have hother {others : List LiveSessionGeneration}
      (h : g.ingressPath ∉ others.map LiveSessionGeneration.ingressPath) :
      ∀ other ∈ others, other.ingressPath ≠ g.ingressPath := fun other hmem heq =>
    h (heq ▸ List.mem_map_of_mem hmem)
  rw [List.flatMap_append, List.flatMap_cons, applyCalls_append, applyCalls_append]
  obtain ⟨row, hrow, hconfig⟩ :=
    held_after_calls hserves (hanswers g hg) hurl hdesired hpath
      (get_applyCalls_of_others (hother hbefore))
  exact ⟨row, (get_applyCalls_of_others (hother hafter)).trans hrow, hconfig⟩

end Loop

/-! ## A pass -/

section Pass

variable {service : Service} {stale : StaleSince} {pass : Pass} {paths : StoredPaths}

theorem deletion_of_mem {media : MediaMtx} {now : Timestamp} {names : List String}
    {call : MediaCall} (h : call ∈ (deleteStale service media now names stale).calls) :
    ∃ name, call = .deletePath name := by
  induction names generalizing stale with
  | nil => cases h
  | cons head rest ih =>
      unfold deleteStale at h
      dsimp only at h
      split at h
      · split at h
        · exact ⟨head, List.mem_singleton.mp h⟩
        · rcases List.mem_cons.mp h with rfl | h
          · exact ⟨head, rfl⟩
          · exact ih h
      · exact ih h

/-- The calls of a pass: those of the loop, and then the list and deletions. -/
theorem calls_reconcileOnce (service : Service) (stale : StaleSince) (pass : Pass) :
    ∃ rest, (reconcileOnce service stale pass).calls = pass.recorded.calls ++ rest ∧
      ∀ call ∈ rest, call = .listConfigPaths ∨ ∃ name, call = .deletePath name := by
  have hend {configured : List JsonObject} :
      ∀ call ∈ .listConfigPaths :: (pass.deletion service stale configured).calls,
        call = .listConfigPaths ∨ ∃ name, call = .deletePath name := by
    intro call hcall
    rcases List.mem_cons.mp hcall with rfl | hcall
    · exact .inl rfl
    · exact .inr (deletion_of_mem hcall)
  rcases reconcileOnce_cases service stale pass with
    ⟨e, -, hresult⟩ | ⟨generations, e, -, -, hresult⟩ |
      ⟨generations, configured, -, hlist, ⟨e, -, hresult⟩ | ⟨-, hresult⟩⟩
  · rw [hresult]
    exact ⟨[], (List.append_nil _).symm, List.forall_mem_nil _⟩
  · rw [hresult]
    exact ⟨_, rfl, fun call hcall => .inl (List.mem_singleton.mp hcall)⟩
  · rw [hresult]
    exact ⟨_, rfl, hend⟩
  · rw [hresult]
    exact ⟨_, rfl, hend⟩

/-- After its loop a pass leaves the desired paths as they are. -/
theorem get_after_pass {name : String} (hname : name ∈ pass.desired) :
    (applyCalls pass.media paths (reconcileOnce service stale pass).calls).get name =
      (applyCalls pass.media paths pass.recorded.calls).get name := by
  obtain ⟨rest, hcalls, hrest⟩ := calls_reconcileOnce service stale pass
  rw [hcalls, applyCalls_append]
  apply get_applyCalls_of_ne
  intro call hcall
  rcases hrest call hcall with rfl | ⟨other, rfl⟩
  · rintro ⟨⟩
  · intro heq
    obtain rfl : other = name := Option.some.inj heq
    have hmem : MediaCall.deletePath other ∈ (reconcileOnce service stale pass).calls := by
      rw [hcalls]
      exact List.mem_append_right _ hcall
    obtain ⟨⟨-, hunwanted⟩, -⟩ := deletion_cases hmem
    obtain ⟨g, hg, hpath⟩ := List.mem_map.mp hname
    exact hunwanted g hg hpath

theorem exists_row_of_configured {name : String}
    (h : name ∈ configuredNames service (paths.rows.map StoredPath.item)) :
    ∃ row ∈ paths.rows, row.name = name := by
  rw [configuredNames, List.mem_dedup] at h
  obtain ⟨item, hitem, hname⟩ := List.mem_filterMap.mp h
  obtain ⟨row, hrow, rfl⟩ := List.mem_map.mp hitem
  have hlookup : row.item.lookup "name" = some (.string row.name) := List.lookup_cons_self
  rw [hlookup] at hname
  dsimp only at hname
  split at hname
  · exact ⟨row, hrow, Option.some.inj hname⟩
  · cases hname

/-- A pass whose loop writes nothing deletes only paths that were stale before it. -/
theorem stale_of_deletion {name : String} (hanswers : AnswersFrom paths pass)
    (hloop : ∀ call ∈ pass.recorded.calls, call.written = none)
    (h : .deletePath name ∈ (reconcileOnce service stale pass).calls) :
    ∃ row ∈ paths.rows, startsWith row.name service.ownedPrefix = true ∧
      row.name ∉ pass.desired := by
  obtain ⟨⟨⟨configured, hlist, hconfigured⟩, hunwanted⟩, -⟩ := deletion_cases h
  have howned := startsWith_of_configured hconfigured
  rw [hanswers.listConfigPaths _ hlist, applyCalls_eq_self hloop] at hconfigured
  obtain ⟨row, hrow, rfl⟩ := exists_row_of_configured hconfigured
  refine ⟨row, hrow, howned, fun hdesired => ?_⟩
  obtain ⟨g, hg, hpath⟩ := List.mem_map.mp hdesired
  exact hunwanted g hg hpath

end Pass

/-! ## The passes of a run -/

section Runs

variable {service : Service} {stale : StaleSince} {wanted : Wanted} {pass : Pass}
  {paths : StoredPaths}

theorem Wanted.ReadBy.desired_eq (h : wanted.ReadBy pass) :
    pass.desired =
      (listReconcilable wanted.generations).map LiveSessionGeneration.ingressPath := by
  have hpaths := congrArg (List.map LiveSessionGeneration.ingressPath) h.2
  rwa [List.map_map, List.map_map] at hpaths

theorem Wanted.nodup_ingressPaths (wanted : Wanted) :
    ((listReconcilable wanted.generations).map LiveSessionGeneration.ingressPath).Nodup :=
  ((List.perm_insertionSort _ _).map _).nodup_iff.mpr
    (wanted.unique.sublist (List.filter_sublist.map _))

theorem mediaStateOf_wanted {media : MediaMtx} {cipher : Cipher} {g : LiveSessionGeneration} :
    mediaStateOf media cipher g.wanted = mediaStateOf media cipher g := rfl

/-- The loop of a pass makes the calls that the generations of the database ask for. -/
theorem calls_recorded (hread : wanted.ReadBy pass) (hanswers : AnswersFrom paths pass) :
    pass.recorded.calls = (listReconcilable wanted.generations).flatMap fun g =>
      (mediaStateOf pass.media wanted.cipher g).calls := by
  rw [calls_recordStates_eq hanswers.getConfigPath, hread.1]
  -- the calls for a generation are those for what a pass wants of it
  have hwanted (generations : Generations) :
      (listReconcilable generations).flatMap
          (fun g => (mediaStateOf pass.media wanted.cipher g).calls) =
        ((listReconcilable generations).map LiveSessionGeneration.wanted).flatMap
          (fun g => (mediaStateOf pass.media wanted.cipher g).calls) := by
    rw [List.flatMap_map]
    exact List.flatMap_congr fun g _ => congrArg Calling.calls mediaStateOf_wanted.symm
  rw [hwanted, hread.2, ← hwanted]

/-- Every path that a generation wants has a config that is recognized. -/
def Settled (wanted : Wanted) (paths : StoredPaths) : Prop :=
  ∀ g ∈ listReconcilable wanted.generations, ∀ url desired,
    sourceUrl wanted.cipher g.sourceCiphertext = .ok url →
      ingressConfig g.sourceType url = .ok desired → path g.ingressPath = .ok () →
        ∃ row, paths.get g.ingressPath = some row ∧ Recognized row.config desired

/-- The config that the service writes is recognized if the scheme is in lower case. -/
theorem recognized_self (hlower : LowerCaseSchemes wanted) {g : LiveSessionGeneration}
    (hg : g ∈ listReconcilable wanted.generations) {url : Option String} {desired : IngressConfig}
    (hurl : sourceUrl wanted.cipher g.sourceCiphertext = .ok url)
    (hdesired : ingressConfig g.sourceType url = .ok desired) (hpath : path g.ingressPath = .ok ()) :
    Recognized desired desired := by
  rw [recognized_iff, and_iff_right rfl]
  rcases ingressConfig_cases hdesired with ⟨text, hpull, rfl, hscheme, rfl⟩ | ⟨hnone, hother⟩
  · rw [if_pos (hlower g hg hpull hpath text hurl hscheme)]
    exact ⟨"tcp", rfl, rfl⟩
  · rw [if_neg (by rw [hother]; exact Bool.false_ne_true)]
    exact hnone

/-- The paths are settled after a pass in which every call succeeds. -/
theorem settled_after_first (hlower : LowerCaseSchemes wanted) (hread : wanted.ReadBy pass)
    (hfrom : AnswersFrom paths pass)
    (hanswers : ∀ call ∈ (reconcileOnce service stale pass).calls, pass.media.Answers call) :
    Settled wanted
      (applyCalls pass.media paths (reconcileOnce service stale pass).calls) := by
  intro g hg url desired hurl hdesired hpath
  obtain ⟨rest, hcalls, -⟩ := calls_reconcileOnce service stale pass
  have hloop : ∀ g ∈ listReconcilable wanted.generations,
      ∀ call ∈ (mediaStateOf pass.media wanted.cipher g).calls, pass.media.Answers call := by
    intro g hg call hcall
    apply hanswers
    rw [hcalls, calls_recorded hread hfrom]
    exact List.mem_append_left _ (List.mem_flatMap.mpr ⟨g, hg, hcall⟩)
  have hname : g.ingressPath ∈ pass.desired := by
    rw [hread.desired_eq]
    exact List.mem_map_of_mem hg
  rw [get_after_pass hname, calls_recorded hread hfrom]
  obtain ⟨row, hrow, hconfig⟩ := held_after_loop wanted.nodup_ingressPaths hfrom.getConfigPath
    hloop hg hpath hurl hdesired
  refine ⟨row, hrow, ?_⟩
  rcases hconfig with heq | hrecognized
  · rw [heq]
    exact recognized_self hlower hg hurl hdesired hpath
  · exact hrecognized

/-- A pass over settled paths writes nothing in its loop. -/
theorem loop_of_settled (hread : wanted.ReadBy pass) (hfrom : AnswersFrom paths pass)
    (hsettled : Settled wanted paths) : ∀ call ∈ pass.recorded.calls, call.written = none := by
  intro call hcall
  rw [calls_recorded hread hfrom] at hcall
  obtain ⟨g, hg, hcall⟩ := List.mem_flatMap.mp hcall
  obtain ⟨url, desired, hurl, hdesired⟩ := wanted_of_mem_calls hcall
  obtain ⟨rest, hrest, hcalls⟩ := calls_mediaStateOf_eq pass.media hurl hdesired
  have hread : (ensurePath pass.media g.ingressPath desired).calls =
      [.getConfigPath g.ingressPath] := by
    rcases ensurePath_cases g.ingressPath desired hfrom.getConfigPath with
      ⟨-, h⟩ | ⟨row, -, -, h⟩ | ⟨hpath, hnot, -⟩
    · exact h
    · exact h
    · obtain ⟨row, hrow, hrecognized⟩ := hsettled g hg url desired hurl hdesired hpath
      exact absurd hrecognized (hnot row hrow)
  rw [hcalls, hread, List.singleton_append] at hcall
  rcases List.mem_cons.mp hcall with rfl | hcall
  · rfl
  · exact hrest call hcall

/-- A pass over settled paths is quiet. -/
theorem quiet_of_settled (hread : wanted.ReadBy pass) (hfrom : AnswersFrom paths pass)
    (hsettled : Settled wanted paths) : Quiet service ⟨stale, paths, pass⟩ := by
  have hloop := loop_of_settled hread hfrom hsettled
  obtain ⟨rest, hcalls, hrest⟩ := calls_reconcileOnce service stale pass
  have hunwritten {call : MediaCall} (hcall : call ∈ (reconcileOnce service stale pass).calls) :
      call.written = none ∨ ∃ name, call = .deletePath name := by
    rw [hcalls] at hcall
    rcases List.mem_append.mp hcall with hcall | hcall
    · exact .inl (hloop call hcall)
    · rcases hrest call hcall with rfl | hdelete
      · exact .inl rfl
      · exact .inr hdelete
  refine ⟨fun name config => ⟨fun hadd => ?_, fun hreplace => ?_⟩, fun hclean name hdelete => ?_⟩
  · rcases hunwritten hadd with h | ⟨other, h⟩ <;> cases h
  · rcases hunwritten hreplace with h | ⟨other, h⟩ <;> cases h
  · obtain ⟨row, hrow, howned, hunwanted⟩ := stale_of_deletion hfrom hloop hdelete
    exact hunwanted (hclean row hrow howned)

/-- A pass over settled paths leaves them settled. -/
theorem settled_after (hread : wanted.ReadBy pass) (hfrom : AnswersFrom paths pass)
    (hsettled : Settled wanted paths) :
    Settled wanted
      (applyCalls pass.media paths (reconcileOnce service stale pass).calls) := by
  intro g hg url desired hurl hdesired hpath
  have hname : g.ingressPath ∈ pass.desired := by
    rw [hread.desired_eq]
    exact List.mem_map_of_mem hg
  rw [get_after_pass hname, applyCalls_eq_self (loop_of_settled hread hfrom hsettled)]
  exact hsettled g hg url desired hurl hdesired hpath

theorem quiet_run {passes : List Pass} (hread : ∀ pass ∈ passes, wanted.ReadBy pass)
    (hsettled : Settled wanted paths)
    (hfrom : ∀ moment ∈ moments service stale paths passes,
      AnswersFrom moment.paths moment.pass) :
    ∀ moment ∈ moments service stale paths passes, Quiet service moment := by
  induction passes generalizing stale paths with
  | nil => exact List.forall_mem_nil _
  | cons pass passes ih =>
      rw [List.forall_mem_cons] at hread
      unfold moments at hfrom ⊢
      dsimp only at hfrom ⊢
      rw [List.forall_mem_cons] at hfrom ⊢
      exact ⟨quiet_of_settled hread.1 hfrom.1 hsettled,
        ih hread.2 (settled_after hread.1 hfrom.1 hsettled) hfrom.2⟩

end Runs

/-! ## A MediaMTX that answers every call -/

/-- The answers about single paths. -/
def MediaMtx.serving (paths : StoredPaths) : MediaMtx where
  getConfigPath := fun name => .ok ((paths.get name).map fun row => row.config.json)
  addPath := fun _ => .ok ()
  replacePath := fun _ => .ok ()
  getActivePath := fun _ => .ok none
  listConfigPaths := .ok []
  deletePath := fun _ => .ok ()

/-- A pass all of whose calls are answered from the stored paths. -/
def Wanted.served (wanted : Wanted) (paths : StoredPaths) : Pass where
  generations := wanted.generations
  cipher := wanted.cipher
  media :=
    { MediaMtx.serving paths with
      listConfigPaths := .ok ((applyCalls (.serving paths) paths
        (recordStates (.serving paths) wanted.cipher wanted.generations
          (listReconcilable wanted.generations)).calls).rows.map StoredPath.item) }
  now := 0

section Served

variable (wanted : Wanted) (paths : StoredPaths)

theorem readBy_served : wanted.ReadBy (wanted.served paths) := ⟨rfl, rfl⟩

theorem answersFrom_served : AnswersFrom paths (wanted.served paths) where
  getConfigPath := fun _ _ h => (Except.ok.inj h).symm
  listConfigPaths := fun _ h => (Except.ok.inj h).symm

theorem answers_served (call : MediaCall) : (wanted.served paths).media.Answers call := by
  cases call with
  | getConfigPath name => exact ⟨_, rfl⟩
  | addPath name config => rfl
  | replacePath name config => rfl
  | getActivePath name => exact ⟨_, rfl⟩
  | listConfigPaths => exact ⟨_, rfl⟩
  | deletePath name => rfl

/-- What MediaMTX stores after a first pass over no paths. -/
def Wanted.firstPaths (service : Service) (wanted : Wanted) : StoredPaths :=
  (Moment.mk (fun _ => none) Table.empty (wanted.served Table.empty)).pathsAfter service

/-- The pass after it. -/
def Wanted.second (service : Service) (wanted : Wanted) : Moment where
  staleSince := (reconcileOnce service (fun _ => none) (wanted.served Table.empty)).staleSince
  paths := wanted.firstPaths service
  pass := wanted.served (wanted.firstPaths service)

variable {wanted}

theorem Converges.quiet_second {service : Service} (h : Converges service wanted) :
    Quiet service (wanted.second service) := by
  refine h (fun _ => none) Table.empty (wanted.served Table.empty)
    [wanted.served (wanted.firstPaths service)] ?_ ?_ (fun call _ => answers_served _ _ call) _
    List.mem_cons_self
  · intro pass hpass
    rcases List.mem_cons.mp hpass with rfl | hpass
    · exact readBy_served ..
    · rw [List.mem_singleton.mp hpass]
      exact readBy_served ..
  · intro moment hmoment
    rcases List.mem_cons.mp hmoment with rfl | hmoment
    · exact answersFrom_served ..
    · rw [List.mem_singleton.mp hmoment]
      exact answersFrom_served ..

end Served

/-- Passes converge exactly if every source that is pulled by RTSP has its scheme in lower
case. -/
theorem converges_iff (service : Service) (wanted : Wanted) :
    Converges service wanted ↔ LowerCaseSchemes wanted := by
  constructor
  · intro h g hg hpull hpath url hurl hlower
    by_contra hshouted
    have hdesired : ingressConfig g.sourceType (some url) = .ok ⟨url, some "tcp"⟩ := by
      rw [hpull]
      exact if_pos hlower
    -- no config is recognized as one for this source
    have hnever (config : IngressConfig) : ¬ Recognized config ⟨url, some "tcp"⟩ := by
      rw [recognized_iff]
      rintro ⟨hsource, hrest⟩
      rw [if_neg (hsource ▸ hshouted)] at hrest
      cases hrest
    have hread : wanted.ReadBy (wanted.second service).pass := readBy_served ..
    have hfrom : AnswersFrom (wanted.second service).paths (wanted.second service).pass :=
      answersFrom_served ..
    obtain ⟨rest, -, hcalls⟩ :=
      calls_mediaStateOf_eq (wanted.second service).pass.media hurl hdesired
    rcases ensurePath_cases g.ingressPath ⟨url, some "tcp"⟩ hfrom.getConfigPath with
      ⟨hunread, -⟩ | ⟨row, -, hrecognized, -⟩ | ⟨-, -, write, hwrite, hensure⟩
    · exact hunread _ (getConfig_eq_ok_iff.mpr ⟨hpath, rfl⟩)
    · exact hnever _ hrecognized
    · have hmem : write ∈ ((wanted.second service).result service).calls := by
        obtain ⟨rest', hresult, -⟩ := calls_reconcileOnce service
          (wanted.second service).staleSince (wanted.second service).pass
        show write ∈ (reconcileOnce service _ _).calls
        rw [hresult, calls_recorded hread hfrom]
        refine List.mem_append_left _ (List.mem_flatMap.mpr ⟨g, hg, ?_⟩)
        rw [hcalls, hensure]
        simp
      obtain ⟨hadd, hreplace⟩ := h.quiet_second.1 g.ingressPath ⟨url, some "tcp"⟩
      rcases hwrite with rfl | rfl
      · exact hadd hmem
      · exact hreplace hmem
  · intro hlower stale paths first passes hread hfrom hanswers
    unfold moments at hfrom ⊢
    dsimp only at hfrom ⊢
    rw [List.forall_mem_cons] at hread hfrom
    exact quiet_run hread.2 (settled_after_first hlower hread.1 hfrom.1 hanswers) hfrom.2

/-- A generation whose source has its scheme in capitals. -/
def shouting : Wanted where
  generations := ⟨[{ generationId := "a", sourceType := .rtspPull, sourceCiphertext := some "x",
                     ingressPath := "ingress/a" }], by decide⟩
  cipher := some fun _ => some "RTSP://camera/live"
  unique := by decide

/-- The source is accepted, and the second pass replaces its path again. -/
theorem shouting_is_replaced :
    validateSourceUrl Url.asciiTables ["rtsp".toList, "rtsps".toList] "RTSP://camera/live" = true ∧
      ¬ Converges {} shouting := by
  refine ⟨by decide, fun h => ?_⟩
  refine (h.quiet_second.1 "ingress/a" ⟨"RTSP://camera/live", some "tcp"⟩).2 ?_
  decide

end Mvision.Media

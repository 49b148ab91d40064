import PersonaChat.Desk.Session
import PersonaChat.Proofs.Command.Letters
import PersonaChat.Proofs.Desk.AlikeSteps
import PersonaChat.Proofs.Desk.Naming
import PersonaChat.Proofs.Desk.Stages
import PersonaChat.Proofs.Store.Apart
import PersonaChat.Proofs.View.Typed

/-!
# A failing disk goes unnoticed

Commands never look at the snapshot file, and a save that fails is recorded and passed over. So two
services that meet different troubles in saving do the same from then on: their commands put the
same questions, send the same and end alike, and their registries and busy conversations stay the
same. Only the snapshot file and the records tell them apart.

Only an export could notice the file, for it writes to a path of its own. It does not where a file
stands in either service, nor where the name of the export is a plain one, in a folder that is not
the snapshot file.

Spec guidance: `SPEC_FULL.md`, lines 154–155 and 195–196.
-/

namespace PersonaChat

open Text

/-! ### Names of exported files -/

/-- The name of an export holds no slash if neither the persona's name nor the user does, and it
ends as the name of a text file. -/
theorem View.Export.plain_of_fileName {agent user name : String} {scope : Scope} {now : Int}
    (h : fileName agent scope.word user now = .ok name) (hagent : '/' ∉ agent.toList)
    (huser : '/' ∉ user.toList) : '/' ∉ name.toList ∧ ∃ stem, name = stem ++ ".txt" := by
  constructor
  · have hplain : '/' ∉ "_".toList ∧ '/' ∉ scope.word.toList ∧ '/' ∉ ".txt".toList := by
      cases scope <;> decide
    rw [mem_fileName_iff h (by decide) (by decide) hplain]
    exact not_or.mpr ⟨hagent, huser⟩
  · unfold fileName at h
    obtain ⟨t, -, hname⟩ := bind_eq_ok h
    cases hname
    exact ⟨_, rfl⟩

/-- Who is designated in a registry of acceptable names is spelt without signs. -/
theorem Registry.WellNamed.allows_of_find? {r : Registry Json} (h : r.WellNamed)
    {spelling : String}
    {p : Persona Json} (hp : r.find? spelling = .ok (some p)) :
    ∀ c ∈ spelling.toList, Name.allows c = true := by
  obtain ⟨k, hd⟩ := (Registry.find?_eq_some_iff r spelling p).mp hp
  obtain ⟨s, hs, hl⟩ := hd.named
  obtain ⟨names, hr, ha⟩ := h
  have hmem : Json.str s ∈ names.map Json.str := by
    rw [← hr, ← hs]
    exact List.mem_map_of_mem (List.mem_of_getElem? hd.stands)
  obtain ⟨own, hown, heq⟩ := List.mem_map.mp hmem
  cases heq
  have hvalid := ha.valid s hown
  simp only [Name.isValid, Bool.and_eq_true] at hvalid
  intro c hc
  by_contra hbarred
  exact Name.lower_ne_of_barred (List.all_eq_true.mp hvalid.2) hc (by simpa using hbarred)
    (String.ofList_injective hl).symm

/-- Exports are written neither to the snapshot file nor below its path. -/
structure Surroundings.ExportsApart (env : Surroundings) : Prop where
  /-- The folder of exports is reached without coming to the file. -/
  folder : Disk.Misses env.vault.path env.exportFolder
  /-- The snapshot file is not named like a text file. -/
  name : ∀ stem, env.vault.name ≠ stem ++ ".txt"

/-- A plain name of a text file is exported beside the snapshot file. -/
theorem Surroundings.ExportsApart.misses {env : Surroundings} (h : env.ExportsApart)
    (hv : env.vault.Regular) {name : String} (hslash : '/' ∉ name.toList)
    (htext : ∃ stem, name = stem ++ ".txt") :
    Disk.Misses env.vault.path (env.exportFolder ++ Path.ofString name) := by
  obtain ⟨stem, hstem⟩ := htext
  have hlong : 4 ≤ name.length := by
    rw [hstem, String.length_append]
    exact Nat.le_add_left _ _
  have hne {short : String} (hs : short.length < 4) : name ≠ short := by
    rintro rfl
    omega
  have hlast : env.vault.path.getLast? = some env.vault.name := by
    rw [Vault.path, hv.single, List.getLast?_concat]
  rw [Path.ofString_of_not_mem hslash (hne (by decide)) (hne (by decide))]
  refine h.folder.concat (hne (by decide)) hlast ?_
  rw [hstem]
  exact (h.name stem).symm

/-! ### Worlds beside each other -/

/-- Everything but the snapshot file, on disks that are told apart by this file only and meet any
troubles. If `filed`, a file stands in its place on both. -/
def Likeness.beside (env : Surroundings) (hv : env.vault.Regular) (filed : Prop) :
    Likeness env where
  viewer := none
  Stored := fun d troubles d' troubles' ↦ d.Beside env.vault.path filed d' ∧ Vault.Tidy troubles ∧
    Vault.Tidy troubles'
  Exported := fun name ↦ filed ∨ Disk.Misses env.vault.path env.exportFolder ∧
    Disk.Misses env.vault.path (env.exportFolder ++ Path.ofString name)
  save := by
    rintro d d' troubles troubles' ⟨hd, ht, ht'⟩ text text' serial
    exact ⟨hv.save hd ht.headD ht'.headD text text' serial, ht.tail, ht'.tail⟩
  folder := by
    rintro d d' troubles troubles' ⟨hd, ht⟩ name hname
    obtain ⟨failure, h, h'⟩ | ⟨e, e', h, h', he⟩ := hd.ensureFolder (hname.imp_right And.left)
    · exact .inl ⟨failure, h, h'⟩
    · exact .inr ⟨e, e', h, h', he, ht⟩
  file := by
    rintro d d' troubles troubles' ⟨hd, ht⟩ name hname bytes
    obtain ⟨fault, h, h'⟩ | ⟨e, e', h, h', he⟩ := hd.write (hname.imp_right And.right) bytes
    · exact .inl ⟨fault, h, h'⟩
    · exact .inr ⟨e, e', h, h', he, ht⟩

/-- Who sees everything sees what a task does. -/
theorem Task.seenBy_none (t : Task) : t.SeenBy none := by
  have hall (user : String) : Sees none user := nofun
  obtain ⟨agent, action, user, textMode, stage⟩ := t
  cases stage with
  | edit e => exact hall _
  | inspect i => exact hall _
  | talk g => exact hall _
  | list => exact hall _
  | listing f => exact hall _
  | _ => trivial

namespace Task

/-- A task that is about to export a history. -/
def Exports (t : Task) : Prop := ∃ agent scope, t.stage = .inspect (.exportFile agent scope)

variable (env : Surroundings) (w : World) (t : Task)

/-- A step never leads to an export. -/
theorem not_exports_step : ¬ (t.step env w).2.Exports := by
  rintro ⟨agent, scope, h⟩
  have hfollows := t.follows_step env w
  rw [h] at hfollows
  generalize t.stage = stage at hfollows
  cases hfollows

/-- No answer leads to an export. -/
theorem exports_of_answer {a : Answer} (h : (t.answer a).Exports) : t.Exports := by
  obtain ⟨agent, scope, h⟩ := h
  unfold answer at h
  dsimp only at h
  split at h
  · cases h
  · cases h
  · cases h
  · cases h
  · cases h
  · exact ⟨agent, scope, h⟩

end Task

/-- Only the command to export a history starts with an export. -/
theorem Request.exports_task {user prompt : String} {images : List Json} {request : Request}
    (h : (request.task user prompt images).Exports) :
    ∃ c scope, request = .command c ∧ c.action = .exportHistory scope := by
  obtain ⟨agent, scope, h⟩ := h
  cases request with
  | configure api => cases h
  | create request => cases h
  | command c =>
    refine ⟨c, ?_⟩
    obtain ⟨name, action, args, indices, privateReply, textMode⟩ := c
    cases action with
    | exportHistory scope => exact ⟨scope, rfl, rfl⟩
    | _ => cases h

/-- A request is the task of its user. -/
theorem Request.user_task (user prompt : String) (images : List Json) (request : Request) :
    (request.task user prompt images).user = user := by
  cases request with
  | configure api => rfl
  | create request => rfl
  | command c => rfl

namespace Floor

variable {env : Surroundings} {l : Likeness env} {s s' : Floor}

/-- Floors with the same commands in worlds that are alike. -/
structure Like (l : Likeness env) (s s' : Floor) : Prop where
  /-- The worlds are alike. -/
  world : s.world.Like l s'.world
  /-- The commands are the same. -/
  tasks : s.tasks = s'.tasks

/-- A move comes out the same on floors that are alike. -/
theorem Like.take (h : Like l s s') (hseen : ∀ t ∈ s.tasks, t.SeenBy l.viewer)
    (hexports : ∀ t ∈ s.tasks, t.ExportsAlike l s.world) (move : Move) :
    Like l (s.take env move) (s'.take env move) := by
  cases move with
  | receive user prompt images request => exact ⟨h.world, congrArg (· ++ _) h.tasks⟩
  | proceed i =>
    show Like l (s.proceed env i) (s'.proceed env i)
    cases ht : s.tasks[i]? with
    | none =>
      rw [proceed_of_getElem?_eq_none env ht, proceed_of_getElem?_eq_none env (h.tasks ▸ ht)]
      exact h
    | some t =>
      have hmem := List.mem_of_getElem? ht
      obtain ⟨hworld, hresult⟩ := Task.step_like t h.world (hseen t hmem) (hexports t hmem)
      rw [proceed_of_getElem? env ht, proceed_of_getElem? env (h.tasks ▸ ht)]
      exact ⟨hworld, by rw [h.tasks, hresult]⟩
  | answer i a => exact ⟨h.world, congrArg (List.modify · i (Task.answer · a)) h.tasks⟩
  | clock now => exact ⟨h.world.withNow now, h.tasks⟩
  | close =>
    have hsaved := h.world.save
    unfold Floor.take
    generalize s.world.save env = u at hsaved ⊢
    generalize s'.world.save env = u' at hsaved ⊢
    exact ⟨hsaved.withAccepting false, h.tasks⟩

/-- What a user exports is not told apart by the snapshot file: there is one in either service, or
exports go elsewhere under plain names. -/
def ExportsUnnoticed (env : Surroundings) (filed : Prop) (r : Registry Json)
    (user : String) : Prop :=
  filed ∨ env.ExportsApart ∧ r.WellNamed ∧ '/' ∉ user.toList

variable {hv : env.vault.Regular} {filed : Prop}

private theorem ExportsUnnoticed.exportsAlike {w : World} {t : Task}
    (h : t.Exports → ExportsUnnoticed env filed w.registry t.user) :
    t.ExportsAlike (.beside env hv filed) w := by
  intro agent scope hstage p name hfind hname
  obtain hf | ⟨hapart, hnamed, huser⟩ := h ⟨agent, scope, hstage⟩
  · exact .inl hf
  · have hagent : '/' ∉ agent.toList := fun hslash ↦
      absurd (hnamed.allows_of_find? hfind '/' hslash) (by decide)
    obtain ⟨hslash, htext⟩ := View.Export.plain_of_fileName hname hagent huser
    exact .inr ⟨hapart.folder, hapart.misses hv hslash htext⟩

/-- Any moves come out the same on floors that are told apart by the snapshot file only. -/
theorem Like.run (h : Like (.beside env hv filed) s s') {moves : List Move}
    (htasks : ∀ t ∈ s.tasks, t.Exports → ExportsUnnoticed env filed s.world.registry t.user)
    (hmoves : ∀ user prompt images c scope, .receive user prompt images (.command c) ∈ moves →
      c.action = .exportHistory scope → ExportsUnnoticed env filed s.world.registry user) :
    Like (.beside env hv filed) (s.run env moves) (s'.run env moves) := by
  induction moves generalizing s s' with
  | nil => exact h
  | cons move moves ih =>
    -- Names that are told apart stay so, so what goes unnoticed now does later.
    have hlater {user : String} (hu : ExportsUnnoticed env filed s.world.registry user) :
        ExportsUnnoticed env filed (s.take env move).world.registry user :=
      hu.imp_right fun ⟨hapart, hnamed, huser⟩ ↦ ⟨hapart, wellNamed_take env s move hnamed, huser⟩
    refine ih (h.take (fun t _ ↦ t.seenBy_none)
      (fun t ht ↦ ExportsUnnoticed.exportsAlike (htasks t ht)) move) ?_ ?_
    · refine forall_tasks_take env (fun t ht he ↦ hlater (htasks t ht he))
        (fun t _ he ↦ absurd he (t.not_exports_step env s.world))
        (fun _ t a _ ht he ↦ hlater ?_) ?_
      · exact htasks t (List.mem_of_getElem? ht) (Task.exports_of_answer t he)
      · rintro user prompt images request rfl he
        obtain ⟨c, scope, rfl, haction⟩ := Request.exports_task he
        rw [Request.user_task]
        exact hlater (hmoves user prompt images c scope List.mem_cons_self haction)
    · intro user prompt images c scope hmem haction
      exact hlater (hmoves user prompt images c scope (List.mem_cons_of_mem _ hmem) haction)

/-- Only the disk, the troubles and the records tell worlds apart that are alike to who sees
everything. -/
theorem eq_of_like {w w' : World} (h : w.Like (.beside env hv filed) w') :
    w' = { w with disk := w'.disk, troubles := w'.troubles, log := w'.log } := by
  have hregistry : w.registry = w'.registry := by
    rw [← Registry.shownTo_none w.registry, ← Registry.shownTo_none w'.registry]
    exact h.registry
  obtain ⟨registry, busy, accepting, disk, serial, troubles, now, events, log⟩ := w'
  rw [hregistry, h.busy, h.accepting, h.serial, h.now, h.events]

/-- A service whose default registry has no personas starts over a snapshot file, or with names
that are told apart. -/
theorem filed_or_wellNamed_of_load {default : Registry Json} (hdefault : default.agents = [])
    (regular : env.vault.Regular) {w w' : World} (h : w.load env default = .ok w') :
    w'.disk.HoldsFile env.vault.path ∨ w'.registry.WellNamed := by
  have hempty : default.WellNamed :=
    ⟨[], by rw [Registry.names, hdefault]; rfl, nofun, List.nodup_nil⟩
  unfold World.load at h
  obtain ⟨⟨disk, snapshot, records⟩, hl, hw⟩ := bind_eq_ok h
  cases hw
  cases snapshot with
  | none => exact .inr hempty
  | some snapshot => exact .inl (Vault.holdsFile_of_load regular hl)

/-- Users who export something among some moves. -/
def Exporter (moves : List Move) (user : String) : Prop :=
  ∃ prompt images c scope,
    .receive user prompt images (.command c) ∈ moves ∧ c.action = .exportHistory scope

/-- Let the same requests, answers and times come to two services that differ in what stands in the
place of the snapshot file and in which of their saves fail: at encoding, at writing the temporary
file, or at moving it into place. If what is exported is not told apart by that file, all commands
put the same questions and end alike, and what leaves the services, their registries and their busy
conversations are the same; only the snapshot file and the records differ. Where a save fails, it
does so with a refusal of its own, which is passed over.

In a service that was started with a default registry without personas nothing is told apart that
users without a slash in their names export, for it stands over a snapshot file or all its names
are acceptable. -/
theorem failing_saves_are_unseen (env : Surroundings) (regular : env.vault.Regular) (w : World)
    (disk : Disk) (troubles : List (Option SaveTrouble)) (moves : List Move)
    (same : ∀ q, q ≠ env.vault.path → w.disk.at? q = disk.at? q)
    (tidy : Vault.Tidy w.troubles) (tidy' : Vault.Tidy troubles) :
    let s := run env (opened w) moves
    let s' := run env (opened { w with disk := disk, troubles := troubles }) moves
    let filed := w.disk.HoldsFile env.vault.path ∧ disk.HoldsFile env.vault.path
    ((∀ user, Exporter moves user → ExportsUnnoticed env filed w.registry user) →
      s'.tasks = s.tasks ∧ ∃ disk' troubles' log',
        s'.world = { s.world with disk := disk', troubles := troubles', log := log' } ∧
          ∀ q, q ≠ env.vault.path → s.world.disk.at? q = disk'.at? q) ∧
    (∀ (default : Registry Json) (v : World), default.agents = [] → v.load env default = .ok w →
      disk = w.disk → env.ExportsApart → (∀ user, Exporter moves user → '/' ∉ user.toList) →
        ∀ user, Exporter moves user → ExportsUnnoticed env filed w.registry user) ∧
    ∀ d text serial trouble failure, (env.vault.save d text serial trouble).2 = .error failure →
      ∃ message, failure = Vault.unwritable message := by
  intro s s' filed
  refine ⟨fun exports ↦ ?_, ?_, ?_⟩
  · have hstart : Like (.beside env regular filed) (opened w)
        (opened { w with disk := disk, troubles := troubles }) :=
      ⟨⟨rfl, rfl, rfl, ⟨⟨same, id⟩, tidy, tidy'⟩, rfl, rfl, rfl⟩, rfl⟩
    have hrun : Like _ s s' := hstart.run (fun t ht ↦ absurd ht List.not_mem_nil)
      fun user prompt images c scope hmem haction ↦
        exports user ⟨prompt, images, c, scope, hmem, haction⟩
    exact ⟨hrun.tasks.symm, _, _, _, eq_of_like hrun.world, hrun.world.stored.1.same⟩
  · rintro default v hdefault hload rfl hapart huser user hexports
    rcases filed_or_wellNamed_of_load hdefault regular hload with hfile | hnamed
    · exact .inl ⟨hfile, hfile⟩
    · exact .inr ⟨hapart, hnamed, huser user hexports⟩
  · intro d text serial trouble failure hfailed
    obtain ⟨d', hs⟩ | ⟨e, message, hs, -⟩ :=
      Vault.save_cases regular.nameable d text serial trouble
    · rw [hs] at hfailed
      cases hfailed
    · rw [hs] at hfailed
      cases hfailed
      exact ⟨message, rfl⟩

private theorem regular_plain : Surroundings.plain.vault.Regular := ⟨rfl, by decide, by decide⟩

private theorem exportsApart_plain : Surroundings.plain.ExportsApart := by
  refine ⟨⟨by decide, by decide⟩, fun stem h ↦ ?_⟩
  have hend : ".txt".toList <:+ "config.json".toList := by
    refine ⟨stem.toList, ?_⟩
    rw [← String.toList_append]
    exact congrArg String.toList h.symm
  exact absurd hend (by decide)

/-- A world that a start over an empty disk leaves. -/
def unpeopled : World :=
  { World.withBot with registry := { World.withBot.registry with agents := [] } }

/-- Over a disk without files `Bot` is created, talks and has its history exported, while the first
save fails at encoding, the second while it writes, and the third when it moves the file into
place. There is no snapshot file then, but the export is there, and all is as if the saves had
succeeded. -/
theorem failing_saves_are_unseen_of_full_disk :
    let troubles : List (Option SaveTrouble) :=
      [some ⟨.encoding, false⟩, some ⟨.writing (some [0]), false⟩, some ⟨.replacing, false⟩]
    let moves : List Move :=
      [.receive "u" "" [] (.create ⟨"Bot", "", "model", "prompt"⟩), .proceed 0,
      .askBot "u" .chat false "hello", .proceed 1, .proceed 1, .proceed 1, .proceed 1,
      .answer 1 (.chat (.ok (some "hi"))), .proceed 1, .proceed 1, .proceed 1, .proceed 1,
      .askBot "u" (.exportHistory .shared) false "", .proceed 2]
    let s := run .plain (opened unpeopled) moves
    let s' := run .plain (opened { unpeopled with troubles := troubles }) moves
    s.world.disk.files = [["config.json"], ["Bot_public_u_19700101000000.txt"]] ∧
      s'.world.disk.files = [["Bot_public_u_19700101000000.txt"]] ∧
      s'.tasks.map Task.ending? = [some (.outcome (.done "🤖 已创建 Bot (模型: model)")),
        some (.outcome (.done "hi")),
        some (.outcome (.done "📤 已导出: Bot_public_u_19700101000000.txt"))] ∧
      s'.tasks = s.tasks := by
  intro troubles moves s s'
  have huser : ∀ user, Exporter moves user → '/' ∉ user.toList := by
    rintro user ⟨prompt, images, c, scope, hmem, -⟩
    simp only [moves, Move.askBot, List.mem_cons, List.not_mem_nil, or_false, Move.receive.injEq,
      reduceCtorEq, false_or, and_false] at hmem
    rcases hmem with ⟨rfl, -⟩ | ⟨rfl, -⟩ <;> decide
  obtain ⟨hsame, hstarted, -⟩ :=
    failing_saves_are_unseen .plain regular_plain unpeopled unpeopled.disk
    troubles moves (fun _ _ ↦ rfl) (by decide) (by decide)
  have htasks :=
    (hsame (hstarted unpeopled.registry unpeopled rfl rfl rfl exportsApart_plain huser)).1
  exact ⟨by decide +kernel, by decide +kernel, by decide +kernel, htasks⟩

/-- A name that leads below the snapshot file, as a registry may hold it that did not pass the
check of names. -/
def nested : World := { World.withBot with registry := { World.withBot.registry with
  agents :=
    [{ Persona.fresh (.str "config.json/x") (.str "model") (.str "prompt") (.str "bot") 0 with
    publicHistory := [.ofUser "hello" [] 0] }] } }

/-- Where a name leads below the snapshot file an export tells whether that file is there: the
persona is described, which is saved or not, and its history is exported. -/
theorem not_failing_saves_are_unseen_of_nested_name : ¬ ∀ (env : Surroundings) (w : World)
    (troubles : List (Option SaveTrouble)) (moves : List Move), env.vault.Regular →
    w.troubles = [] → Vault.Tidy troubles →
    (run env (opened { w with troubles := troubles }) moves).tasks.map Task.ending? =
      (run env (opened w) moves).tasks.map Task.ending? := by
  intro h
  have hsame := h .plain nested [some ⟨.replacing, false⟩]
    [.receive "u" "words" []
      (.command ⟨"config.json/x", .setDescription, "words", [], false, true⟩),
      .proceed 0,
      .receive "u" "" [] (.command ⟨"config.json/x", .exportHistory .shared, "", [], false, true⟩),
      .proceed 1] regular_plain rfl (by decide)
  revert hsame
  decide +kernel

end Floor
end PersonaChat

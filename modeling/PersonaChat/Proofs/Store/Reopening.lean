import PersonaChat.Proofs.Json.Reading
import PersonaChat.Proofs.Store.Saving

/-!
# Loading settles a snapshot once and for all

Whatever was once understood, with fields missing or of odd types, is understood as the same
registry when that is written as a document and read again. So a file that was loaded once is
loaded as the same registry after any number of saves and loads.

Main statement: `Vault.loading_settles`.

Spec guidance: `SPEC_FULL.md`, lines 190–196.
-/

namespace PersonaChat.Vault

open Text

/-- A snapshot comes from another by saves and loads: the snapshot that was loaded last is saved
over some disk and loaded from the disk that the save leaves. -/
inductive Reopened (v : Vault) (default s : Snapshot) : Snapshot → Prop where
  /-- Nothing was saved yet. -/
  | never : Reopened v default s s
  /-- The snapshot was saved and loaded once more. -/
  | again {t u : Snapshot} {d d' d'' : Disk} {serial : Nat} {trouble : Option SaveTrouble}
      {now : Int}
      {records : List LogRecord} (before : Reopened v default s t)
      (saved : v.save d (encode t) serial trouble = (d', .ok ()))
      (loaded : v.load d' default now = .ok (d'', some u, records)) : Reopened v default s u

variable {v : Vault} {default s t : Snapshot}

/-- A settled snapshot that can be written, and whose defaults are filled in as far as they are
known, is loaded as it was saved. -/
theorem load_of_settled (hsettled : s.Settled) (hw : Json.Writable Json.maxDepth s.toJson)
    (hdefaults : s.withDefaults default = s) {d d' : Disk} {serial : Nat}
    {trouble : Option SaveTrouble} (hs : v.save d (encode s) serial trouble = (d', .ok ()))
    (now : Int) : v.load d' default now = .ok (d', some s, []) := by
  rw [load_saved_of_settled hsettled hw hs, hdefaults]

/-- Such a snapshot stays the same through all saves and loads. -/
theorem Reopened.eq_of_settled (hsettled : s.Settled)
    (hw : Json.Writable Json.maxDepth s.toJson) (hdefaults : s.withDefaults default = s)
    (h : Reopened v default s t) : t = s := by
  induction h with
  | never => rfl
  | again _ saved loaded ih =>
    -- What was loaded last is the snapshot itself, so this save writes it once more.
    subst ih
    rw [load_of_settled hsettled hw hdefaults saved] at loaded
    cases loaded
    rfl

/-- Whatever document is understood as a registry, the registry is written as a document that is
understood as the same one; and the registries that are read back from their own document are
exactly those whose fields are filled in or have their default. So if the file holds a document
without floating-point numbers that is understood, in whatever shape its fields are, it is loaded
with empty defaults taken from the registry that is used where nothing is found; and the snapshot
that was loaded is, whenever it can be saved, loaded again as it is, after any number of saves and
loads. -/
theorem loading_settles :
    (∀ (j : Json) (r : Snapshot), Registry.ofJson j = .ok r → Registry.ofJson r.toJson = .ok r) ∧
    (∀ r : Snapshot, Registry.ofJson r.toJson = .ok r ↔ r.Settled) ∧
    ∀ (v : Vault) (d : Disk) (bytes : List UInt8) (text : String) (j : Json) (r : Snapshot)
      (default : Registry String) (now : Int),
      v.find d = .ok (some (.file bytes)) → decodeStrict? bytes = some text →
      Json.read text = .ok j → j.Whole → Registry.ofJson j = .ok r →
      let loaded := r.withDefaults default.snapshot
      v.load d default.snapshot now = .ok (d, some loaded, []) ∧
        ∀ t, Reopened v default.snapshot loaded t → t = loaded ∧
          ∀ d d' serial trouble now, v.save d (encode t) serial trouble = (d', .ok ()) →
            v.load d' default.snapshot now = .ok (d', some loaded, []) := by
  refine ⟨fun j r h ↦ (Registry.ofJson_eq_ok_iff.mp h).settled.ofJson_toJson,
    fun r ↦ ⟨fun h ↦ (Registry.ofJson_eq_ok_iff.mp h).settled, Registry.Settled.ofJson_toJson⟩, ?_⟩
  intro v d bytes text j r default now hfind hdecode hread hwhole hr
  have hreads := Registry.ofJson_eq_ok_iff.mp hr
  have hsettled := hreads.settled.withDefaults default
  have hwritable : Json.Writable Json.maxDepth (r.withDefaults default.snapshot).toJson :=
    hreads.writable_withDefaults (Json.writable_of_read hread hwhole) default
  have hdefaults := Registry.withDefaults_withDefaults r default.snapshot
  have hunderstood : decode? bytes = some r := by
    rw [decode?, hdecode]
    simp only [Option.bind_some, Json.parse?, hread, Except.toOption, hr]
  refine ⟨load_of_decode? hfind hunderstood _ now, fun t ht ↦ ?_⟩
  obtain rfl := ht.eq_of_settled hsettled hwritable hdefaults
  exact ⟨rfl, fun d d' serial trouble now saved ↦
    load_of_settled hsettled hwritable hdefaults saved now⟩

/-- A file with fields missing, null or false, a number in the place of a name, a text in the place
of a number, and a text and an object in the place of lists is loaded, saved and loaded as the same
registry. -/
theorem loading_settles_of_odd_types :
    let v : Vault := ⟨["data"], ["config.json"]⟩
    let text :=
      "\x7b\"api_key\":null,\"models\":\"ab\",\"agents\":[\x7b\"name\":7,\"public_history\":[" ++
      "\x7b\"images\":\x7b\"h\":1\x7d,\"timestamp\":\" ٣_0 \"\x7d],\"generation_id\":true\x7d]," ++
      "\"default_model\":false\x7d"
    let d : Disk := [(["data"], .folder), (["data", "config.json"], .file (Text.encode text))]
    let default : Registry String := ⟨"", "", [], [], "model", ""⟩
    let message : Message Json := ⟨.str "user", .str "", [.str "h"], 30⟩
    let persona : Persona Json := ⟨.int 7, .str "", .str "", .str "", [message], [], 1, 0⟩
    let read : Snapshot := ⟨.str "", .str "", [.str "a", .str "b"], [persona], .str "", .str ""⟩
    let loaded : Snapshot := { read with defaultModel := .str "model" }
    (∃ written, Json.read text = .ok written ∧ written.Whole ∧
      Registry.ofJson written = .ok read) ∧
      Registry.ofJson read.toJson = .ok read ∧
      v.load d default.snapshot 0 = .ok (d, some loaded, []) ∧
      ∃ d', v.save d (encode loaded) 1 none = (d', .ok ()) ∧
        v.load d' default.snapshot 9 = .ok (d', some loaded, []) := by
  intro v text d default message persona read loaded
  let written : Json := .obj [("api_key", .null), ("models", .str "ab"), ("agents", .arr [.obj
    [("name", .int 7), ("public_history", .arr [.obj [("images", .obj [("h", .int 1)]),
      ("timestamp", .str " ٣_0 ")]]), ("generation_id", .bool true)]]),
    ("default_model", .bool false)]
  have hwritten : Json.read text = .ok written := by decide +kernel
  have hwhole : written.Whole := by
    repeat' first
      | refine List.forall_mem_cons.mpr ⟨?_, ?_⟩
      | exact List.forall_mem_nil _
      | constructor
  have hread : Registry.ofJson written = .ok read := by decide +kernel
  have saved : v.save d (encode loaded) 1 none = ((v.save d (encode loaded) 1 none).1, .ok ()) :=
    Prod.ext rfl (by decide +kernel)
  obtain ⟨hload, hagain⟩ := loading_settles.2.2 v d (Text.encode text) text written read default 0
    rfl (decodeStrict?_encode text) hwritten hwhole hread
  exact ⟨⟨written, hwritten, hwhole, hread⟩, loading_settles.1 written read hread, hload, _, saved,
    (hagain loaded .never).2 d _ 1 none 9 saved⟩

end PersonaChat.Vault

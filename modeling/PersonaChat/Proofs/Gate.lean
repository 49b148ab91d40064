import PersonaChat.Gate
import PersonaChat.Proofs.Persona

/-!
# Readers and writers at a gate

The counters of a gate say how many readers are inside and how many writers still try, a writer
inside is alone, and whoever sleeps is still kept out. Coming keeps this up because whoever comes
is awake first and then tries; leaving keeps it up because it wakes everybody as soon as it could
let somebody in. So nobody is forgotten: where nobody is inside, one of those who wait is awake and
can go in.

Spec guidance: `SPEC_FULL.md`, lines 116–117.
-/

namespace PersonaChat

namespace Keyed

universe u v

variable {κ : Type u} {α : Type v} [DecidableEq κ] {k : κ} {m : Keyed κ α}

/-- A key without a value has no entry. -/
theorem get?_eq_none_iff : get? k m = none ↔ k ∉ keys m := by
  induction m with
  | nil => simp [get?, keys]
  | cons entry r ih =>
    by_cases hk : entry.1 = k
    · simp [get?, keys, hk]
    · rw [get?, if_neg hk, ih]
      simp [keys, Ne.symm hk]

/-- An entry gives its key its value, where keys are distinct. -/
theorem get?_of_mem (h : (keys m).Nodup) {entry : κ × α} (hm : entry ∈ m) :
    get? entry.1 m = some entry.2 := by
  induction m with
  | nil => cases hm
  | cons first r ih =>
    obtain ⟨hfresh, hr⟩ := List.nodup_cons.mp h
    rw [get?]
    rcases List.mem_cons.mp hm with rfl | hm
    · rw [if_pos rfl]
    · have hne : first.1 ≠ entry.1 := by
        intro he
        exact hfresh (he ▸ List.mem_map_of_mem hm)
      rw [if_neg hne, ih hr hm]

/-- A key without an entry is erased already. -/
theorem erase_of_not_mem_keys (h : k ∉ keys m) : erase k m = m := by
  refine List.filter_eq_self.mpr fun entry hentry ↦ decide_eq_true fun he ↦ h ?_
  rw [← he]
  exact List.mem_map_of_mem hentry

/-- Erasing a key keeps the others apart. -/
theorem nodup_keys_erase (h : (keys m).Nodup) (k : κ) : (keys (erase k m)).Nodup :=
  h.sublist (List.filter_sublist.map Prod.fst)

/-- A key that is set is erased as before. -/
theorem erase_put_self (k : κ) (a : α) (m : Keyed κ α) : erase k (put k a m) = erase k m := by
  induction m with
  | nil => simp [put, erase]
  | cons entry r ih =>
    rw [put]
    split
    · next hk => simp [erase, hk]
    · next hk => simpa [erase, hk] using ih

/-- A value that a key has stands beside the entries of the other keys. -/
theorem perm_of_get? (h : (keys m).Nodup) {a : α} (hk : get? k m = some a) :
    m.Perm ((k, a) :: erase k m) := by
  induction m with
  | nil => cases hk
  | cons entry r ih =>
    obtain ⟨hfresh, hr⟩ := List.nodup_cons.mp h
    rw [get?] at hk
    split at hk
    · next he =>
      cases hk
      subst he
      have herase : erase entry.1 (entry :: r) = erase entry.1 r := by simp [erase]
      rw [herase, erase_of_not_mem_keys hfresh]
    · next hne =>
      have herase : erase k (entry :: r) = entry :: erase k r := by simp [erase, hne]
      rw [herase]
      exact ((ih hr hk).cons entry).trans (.swap _ _ _)

end Keyed

/-- Where somebody stands once everybody is woken. -/
def Stand.woken : Stand → Stand
  | .asleep access => .awake access
  | stand => stand

namespace Gate

variable {ι : Type} [DecidableEq ι]

/-! ### Who stands where -/

/-- Where somebody stands who has come. -/
def stand? (g : Gate ι) (who : ι) : Option Stand := Keyed.get? who g.stands

/-- How many stand in a given place. -/
def count (g : Gate ι) (stand : Stand) : Nat := (g.stands.map Prod.snd).count stand

/-- How many still try to enter. -/
def trying (g : Gate ι) (access : Access) : Nat :=
  g.count (.asleep access) + g.count (.awake access)

/-- How many others stand in a given place. -/
def countBut (g : Gate ι) (who : ι) (stand : Stand) : Nat :=
  ((Keyed.erase who g.stands).map Prod.snd).count stand

variable {g g' : Gate ι} {who other : ι} {access : Access} {stand : Stand}

/-- Those in a place are the others there and the one, if there. -/
theorem count_eq (h : (Keyed.keys g.stands).Nodup) (who : ι) (stand : Stand) :
    g.count stand = g.countBut who stand + if g.stand? who = some stand then 1 else 0 := by
  cases hw : g.stand? who with
  | none =>
    rw [count, countBut, Keyed.erase_of_not_mem_keys (Keyed.get?_eq_none_iff.mp hw)]
    simp
  | some place =>
    rw [count, ((Keyed.perm_of_get? h hw).map Prod.snd).count_eq, List.map_cons, List.count_cons]
    simp [countBut]

/-- A place in which somebody stands is not empty. -/
theorem count_pos (h : (Keyed.keys g.stands).Nodup) (hw : g.stand? who = some stand) :
    0 < g.count stand := by
  rw [count_eq h who, if_pos hw]
  omega

/-- All but one stand where they stood. -/
structure Moves (who : ι) (g g' : Gate ι) : Prop where
  distinct : (Keyed.keys g.stands).Nodup → (Keyed.keys g'.stands).Nodup
  others : ∀ other, other ≠ who → g'.stand? other = g.stand? other
  countBut : ∀ stand, g'.countBut who stand = g.countBut who stand

/-- Somebody takes a place. -/
theorem moves_put (hs : g'.stands = Keyed.put who stand g.stands) : Moves who g g' where
  distinct h := by
    rw [hs]
    exact Keyed.nodup_keys_put h who stand
  others other hne := by rw [stand?, hs, Keyed.get?_put_of_ne hne, stand?]
  countBut place := by rw [Gate.countBut, hs, Keyed.erase_put_self, Gate.countBut]

/-- Whoever takes a place stands there. -/
theorem stand?_put_self (hs : g'.stands = Keyed.put who stand g.stands) :
    g'.stand? who = some stand := by
  rw [stand?, hs, Keyed.get?_put_self]

/-- Somebody goes away. -/
theorem moves_erase (hs : g'.stands = Keyed.erase who g.stands) : Moves who g g' where
  distinct h := by
    rw [hs]
    exact Keyed.nodup_keys_erase h who
  others other hne := by rw [stand?, hs, Keyed.get?_erase_of_ne hne, stand?]
  countBut place := by
    have herase : Keyed.erase who (Keyed.erase who g.stands) = Keyed.erase who g.stands :=
      Keyed.erase_of_not_mem_keys (Keyed.get?_eq_none_iff.mp (Keyed.get?_erase_self who g.stands))
    rw [Gate.countBut, hs, herase, Gate.countBut]

/-- Whoever goes away stands nowhere. -/
theorem stand?_erase_self (hs : g'.stands = Keyed.erase who g.stands) : g'.stand? who = none := by
  rw [stand?, hs, Keyed.get?_erase_self]

omit [DecidableEq ι] in
private theorem stands_wakeAll (g : Gate ι) :
    g.wakeAll.stands = g.stands.map fun entry ↦ (entry.1, entry.2.woken) := by
  refine List.map_congr_left fun entry _ ↦ ?_
  obtain ⟨who, stand⟩ := entry
  cases stand <;> rfl

/-- Waking moves everybody who sleeps. -/
theorem stand?_wakeAll : g.wakeAll.stand? who = (g.stand? who).map Stand.woken := by
  rw [stand?, stands_wakeAll, stand?]
  generalize g.stands = stands
  induction stands with
  | nil => rfl
  | cons entry r ih =>
    by_cases hk : entry.1 = who
    · simp [Keyed.get?, hk]
    · simpa [Keyed.get?, hk] using ih

omit [DecidableEq ι] in
/-- Waking leaves those inside where they are, and those who try go on trying. -/
theorem count_wakeAll (g : Gate ι) (access : Access) :
    g.wakeAll.count (.inside access) = g.count (.inside access) ∧
      g.wakeAll.trying access = g.trying access := by
  have hplaces : g.wakeAll.stands.map Prod.snd = (g.stands.map Prod.snd).map Stand.woken := by
    rw [stands_wakeAll, List.map_map, List.map_map]
    rfl
  rw [trying, trying, count, count, count, count, count, count, hplaces]
  generalize g.stands.map Prod.snd = places
  induction places with
  | nil => exact ⟨rfl, rfl⟩
  | cons place places ih =>
    obtain ⟨hinside, htrying⟩ := ih
    cases place <;> simp only [List.map_cons, List.count_cons, Stand.woken] <;> grind

/-! ### What is kept up -/

/-- The counters count, and a writer inside is alone. -/
structure Counted (g : Gate ι) : Prop where
  /-- Nobody stands in two places. -/
  distinct : (Keyed.keys g.stands).Nodup
  /-- The readers inside are counted. -/
  readers : g.readers = g.count (.inside .read)
  /-- The writers that try are counted. -/
  waitingWriters : g.waitingWriters = g.trying .write
  /-- It is known whether a writer is inside, and there is one at most. -/
  writing : g.writing.toNat = g.count (.inside .write)
  /-- No reader is inside with a writer. -/
  alone : g.writing = true → g.readers = 0

/-- The counters count, and nobody sleeps who could go in. -/
structure WF (g : Gate ι) : Prop extends Counted g where
  /-- Whoever sleeps is kept out. -/
  kept : ∀ who access, g.stand? who = some (.asleep access) → g.admits access = false

/-- The counters still count when they follow the one who moves. -/
theorem Counted.of_moves (h : g.Counted) (hm : Moves who g g') {old new : Option Stand}
    (hold : g.stand? who = old) (hnew : g'.stand? who = new)
    (readers : g'.readers + (if old = some (.inside .read) then 1 else 0) =
      g.readers + if new = some (.inside .read) then 1 else 0)
    (waitingWriters : g'.waitingWriters + (if old = some (.asleep .write) then 1 else 0) +
        (if old = some (.awake .write) then 1 else 0) =
      g.waitingWriters + (if new = some (.asleep .write) then 1 else 0) +
        if new = some (.awake .write) then 1 else 0)
    (writing : g'.writing.toNat + (if old = some (.inside .write) then 1 else 0) =
      g.writing.toNat + if new = some (.inside .write) then 1 else 0)
    (alone : g'.writing = true → g'.readers = 0) : g'.Counted := by
  have hcount := count_eq h.distinct who
  have hcount' := count_eq (hm.distinct h.distinct) who
  simp only [hold] at hcount
  simp only [hnew, hm.countBut] at hcount'
  have hreaders := h.readers
  have hwaiting := h.waitingWriters
  have hwriting := h.writing
  rw [trying, hcount, hcount] at hwaiting
  rw [hcount] at hreaders hwriting
  refine ⟨hm.distinct h.distinct, ?_, ?_, ?_, alone⟩
  · rw [hcount']
    omega
  · rw [trying, hcount', hcount']
    omega
  · rw [hcount']
    omega

/-- Once everybody is woken nobody sleeps. -/
theorem Counted.wakeAll (h : g.Counted) : g.wakeAll.WF where
  distinct := by
    rw [Keyed.keys, stands_wakeAll, List.map_map]
    exact h.distinct
  readers := h.readers.trans (count_wakeAll g .read).1.symm
  waitingWriters := h.waitingWriters.trans (count_wakeAll g .write).2.symm
  writing := h.writing.trans (count_wakeAll g .write).1.symm
  alone := h.alone
  kept who access hsleeps := by
    rw [stand?_wakeAll] at hsleeps
    obtain ⟨place, -, hplace⟩ := Option.map_eq_some_iff.mp hsleeps
    cases place <;> cases hplace

/-- Whoever sleeps is still kept out if the gate is no more open than before and the one who moved
sleeps only when kept out. -/
theorem WF.of_moves (h : g.WF) (hm : Moves who g g') (hc : g'.Counted)
    (hself : ∀ access, g'.stand? who = some (.asleep access) → g'.admits access = false)
    (hothers : ∀ access, g.admits access = false → g'.admits access = false) : g'.WF := by
  refine ⟨hc, fun other access hsleeps ↦ ?_⟩
  by_cases hne : other = who
  · subst hne
    exact hself access hsleeps
  · rw [hm.others other hne] at hsleeps
    exact hothers access (h.kept other access hsleeps)

/-! ### Coming, trying and leaving -/

/-- Somebody comes, awake. -/
def arrive (g : Gate ι) (who : ι) (access : Access) : Gate ι :=
  { g with
    waitingWriters := g.waitingWriters + if access = .write then 1 else 0
    stands := Keyed.put who (.awake access) g.stands }

/-- Coming is arriving and trying for the first time. -/
theorem enter_eq (g : Gate ι) (who : ι) (access : Access) :
    g.enter who access = (g.arrive who access).retry who := by
  cases access <;> simp [enter, arrive, retry, attempt, admits, Keyed.put_put]

/-- Whoever is kept out falls asleep. -/
theorem attempt_of_kept (h : g.admits access = false) : g.attempt who access =
    { g with stands := Keyed.put who (.asleep access) g.stands } := by
  simp [attempt, h]

/-- A reader who is admitted goes in. -/
theorem attempt_read (h : g.admits .read = true) : g.attempt who .read =
    { g with readers := g.readers + 1, stands := Keyed.put who (.inside .read) g.stands } := by
  simp [attempt, h]

/-- A writer who is admitted goes in, and waits no longer. -/
theorem attempt_write (h : g.admits .write = true) : g.attempt who .write =
    { g with
      writing := true
      waitingWriters := g.waitingWriters - 1
      stands := Keyed.put who (.inside .write) g.stands } := by
  simp [attempt, h]

/-- Nothing is wrong with a gate to which nobody has come. -/
theorem wf_empty : (empty : Gate ι).WF := ⟨⟨.nil, rfl, rfl, rfl, nofun⟩, nofun⟩

/-- Somebody arrives who is not there. -/
theorem WF.arrive (h : g.WF) (hw : g.stand? who = none) (access : Access) :
    (g.arrive who access).WF := by
  have hm : Moves who g (g.arrive who access) := moves_put rfl
  have hself : (g.arrive who access).stand? who = some (.awake access) :=
    stand?_put_self rfl
  refine h.of_moves hm (h.toCounted.of_moves hm hw hself ?_ ?_ ?_ h.alone)
    (fun wanted hsleeps ↦ ?_) fun wanted hkept ↦ ?_
  · simp [Gate.arrive]
  · simp [Gate.arrive]
  · simp [Gate.arrive]
  · rw [hself] at hsleeps
    cases hsleeps
  · cases wanted with
    | read =>
      simp only [admits, Gate.arrive, Bool.and_eq_false_iff, beq_eq_false_iff_ne, ne_eq] at hkept ⊢
      exact hkept.imp_right fun hwaiting ↦ by omega
    | write => exact hkept

/-- Somebody who is awake tries to enter. -/
theorem WF.attempt (h : g.WF) (hw : g.stand? who = some (.awake access)) :
    (g.attempt who access).WF := by
  cases hadmits : g.admits access with
  | false =>
    rw [attempt_of_kept hadmits]
    refine h.of_moves (moves_put rfl)
      (h.toCounted.of_moves (moves_put rfl) hw (stand?_put_self rfl) ?_ ?_ ?_ h.alone)
      (fun wanted hsleeps ↦ ?_) fun wanted hkept ↦ hkept
    · simp
    · simp
    · simp
    · rw [stand?, Keyed.get?_put_self] at hsleeps
      cases hsleeps
      exact hadmits
  | true =>
    cases access with
    | read =>
      rw [attempt_read hadmits]
      simp only [admits, Bool.and_eq_true, Bool.not_eq_true', beq_iff_eq] at hadmits
      refine h.of_moves (moves_put rfl)
        (h.toCounted.of_moves (moves_put rfl) hw (stand?_put_self rfl) ?_ ?_ ?_ ?_)
        (fun wanted hsleeps ↦ ?_) fun wanted hkept ↦ ?_
      · simp
      · simp
      · simp
      · simp [hadmits]
      · rw [stand?, Keyed.get?_put_self] at hsleeps
        cases hsleeps
      · cases wanted with
        | read => exact hkept
        | write => simp [admits]
    | write =>
      rw [attempt_write hadmits]
      simp only [admits, Bool.and_eq_true, Bool.not_eq_true', beq_iff_eq] at hadmits
      have hwaiting : 0 < g.waitingWriters := by
        rw [h.waitingWriters, trying]
        exact Nat.add_pos_right _ (count_pos h.distinct hw)
      refine h.of_moves (moves_put rfl)
        (h.toCounted.of_moves (moves_put rfl) hw (stand?_put_self rfl) ?_ ?_ ?_ ?_)
        (fun wanted hsleeps ↦ ?_) fun wanted hkept ↦ ?_
      · simp
      · simp
        omega
      · simp [hadmits]
      · simp [hadmits]
      · rw [stand?, Keyed.get?_put_self] at hsleeps
        cases hsleeps
      · cases wanted <;> rfl

/-- Somebody tries again, if awake. -/
theorem WF.retry (h : g.WF) (who : ι) : (g.retry who).WF := by
  unfold Gate.retry
  split
  · next access hw => exact h.attempt hw
  · exact h

/-- Somebody leaves, if inside. -/
theorem WF.leave (h : g.WF) (who : ι) : (g.leave who).WF := by
  unfold Gate.leave
  split
  · next hw =>
    have hreaders : 0 < g.readers := by
      rw [h.readers]
      exact count_pos h.distinct hw
    have hc : Counted { g with
        readers := g.readers - 1, stands := Keyed.erase who g.stands } := by
      refine h.toCounted.of_moves (moves_erase rfl) hw (stand?_erase_self rfl) ?_ ?_ ?_ ?_
      · simp
        omega
      · simp
      · simp
      · intro hwriting
        simp [h.alone hwriting]
    dsimp only
    split
    · exact hc.wakeAll
    · next hothers =>
      refine h.of_moves (moves_erase rfl) hc (fun wanted hsleeps ↦ ?_) fun wanted hkept ↦ ?_
      · rw [stand?, Keyed.get?_erase_self] at hsleeps
        cases hsleeps
      · cases wanted with
        | read => exact hkept
        | write => simp [admits, hothers]
  · next hw =>
    have hwriting : g.writing = true := by
      have hone : g.writing.toNat ≠ 0 := by
        rw [h.writing]
        exact Nat.ne_of_gt (count_pos h.distinct hw)
      cases hwriting : g.writing with
      | false => exact absurd (by rw [hwriting]; rfl) hone
      | true => rfl
    have hc : Counted { g with writing := false, stands := Keyed.erase who g.stands } := by
      refine h.toCounted.of_moves (moves_erase rfl) hw (stand?_erase_self rfl) ?_ ?_ ?_ nofun
      · simp
      · simp
      · simp [hwriting]
    exact hc.wakeAll
  · exact h

/-! ### Any number of moves -/

/-- A move that somebody can make who does not come twice. -/
def Orderly (g : Gate ι) : Move ι → Prop
  | .enter who _ => g.stand? who = none
  | .retry _ | .leave _ => True

/-- Carry out moves one after the other. -/
def run (g : Gate ι) (moves : List (Move ι)) : Gate ι := moves.foldl step g

/-- Nobody comes again before leaving. -/
def AllOrderly : Gate ι → List (Move ι) → Prop
  | _, [] => True
  | g, move :: moves => g.Orderly move ∧ AllOrderly (g.step move) moves

instance (g : Gate ι) : DecidablePred g.Orderly
  | .enter who _ => inferInstanceAs (Decidable (g.stand? who = none))
  | .retry _ | .leave _ => inferInstanceAs (Decidable True)

instance decidableAllOrderly : ∀ (g : Gate ι) moves, Decidable (AllOrderly g moves)
  | _, [] => inferInstanceAs (Decidable True)
  | g, move :: moves =>
    have := decidableAllOrderly (g.step move) moves
    inferInstanceAs (Decidable (g.Orderly move ∧ AllOrderly (g.step move) moves))

private theorem WF.step (h : g.WF) {move : Move ι} (hm : g.Orderly move) : (g.step move).WF := by
  cases move with
  | enter who access =>
    show (g.enter who access).WF
    rw [enter_eq]
    exact (h.arrive hm access).retry who
  | retry who => exact h.retry who
  | leave who => exact h.leave who

private theorem WF.run (h : g.WF) {moves : List (Move ι)} (hm : AllOrderly g moves) :
    (g.run moves).WF := by
  induction moves generalizing g with
  | nil => exact h
  | cons move moves ih => exact ih (h.step hm.1) hm.2

/-! ### Who goes in -/

/-- Whoever tries is inside or asleep then, and the others stand where they stood. -/
theorem stands_attempt (g : Gate ι) (who : ι) (access : Access) : (g.attempt who access).stands =
    Keyed.put who (if g.admits access then .inside access else .asleep access) g.stands := by
  cases hadmits : g.admits access with
  | false => rw [attempt_of_kept hadmits, if_neg Bool.false_ne_true]
  | true =>
    rw [if_pos rfl]
    cases access with
    | read => rw [attempt_read hadmits]
    | write => rw [attempt_write hadmits]

/-- Whoever goes in by trying was admitted. -/
theorem admits_of_attempt {wanted : Access}
    (hin : (g.attempt who wanted).stand? other = some (.inside access))
    (hout : g.stand? other ≠ some (.inside access)) :
    wanted = access ∧ g.admits wanted = true := by
  by_cases hne : other = who
  · subst hne
    rw [stand?, stands_attempt, Keyed.get?_put_self] at hin
    split at hin
    · next hadmits =>
      cases hin
      exact ⟨rfl, hadmits⟩
    · cases hin
  · rw [(moves_put (stands_attempt g who wanted)).others other hne] at hin
    exact absurd hin hout

/-- Nobody goes in who is not admitted. -/
theorem admits_of_step {move : Move ι} (hin : (g.step move).stand? who = some (.inside access))
    (hout : g.stand? who ≠ some (.inside access)) : g.admits access = true := by
  cases move with
  | enter other wanted =>
    cases wanted with
    | read =>
      obtain ⟨rfl, hadmits⟩ := admits_of_attempt hin hout
      exact hadmits
    | write =>
      obtain ⟨rfl, hadmits⟩ := admits_of_attempt (g := { g with waitingWriters := _ }) hin hout
      exact hadmits
  | retry other =>
    change (g.retry other).stand? who = _ at hin
    unfold retry at hin
    split at hin
    · obtain ⟨rfl, hadmits⟩ := admits_of_attempt hin hout
      exact hadmits
    · exact absurd hin hout
  | leave other =>
    -- Those who stay stand where they stood, but for waking.
    have hstays {g' : Gate ι} (hs : g'.stands = Keyed.erase other g.stands)
        (hin' : g'.stand? who = some (.inside access)) : g.stand? who = some (.inside access) := by
      by_cases hne : who = other
      · rw [hne, stand?_erase_self hs] at hin'
        cases hin'
      · rwa [(moves_erase hs).others who hne] at hin'
    have hwoken {g' : Gate ι} (hin' : g'.wakeAll.stand? who = some (.inside access)) :
        g'.stand? who = some (.inside access) := by
      rw [stand?_wakeAll] at hin'
      obtain ⟨place, hplace, hwoken⟩ := Option.map_eq_some_iff.mp hin'
      cases place <;> cases hwoken
      exact hplace
    change (g.leave other).stand? who = _ at hin
    unfold leave at hin
    split at hin
    · dsimp only at hin
      split at hin
      · exact absurd (hstays rfl (hwoken hin)) hout
      · exact absurd (hstays rfl hin) hout
    · exact absurd (hstays rfl (hwoken hin)) hout
    · exact absurd hin hout

/-- Somebody stands in a place that is not empty. -/
theorem exists_of_count_pos (h : (Keyed.keys g.stands).Nodup) (hcount : 0 < g.count stand) :
    ∃ who, g.stand? who = some stand := by
  obtain ⟨entry, hentry, rfl⟩ := List.mem_map.mp (List.count_pos_iff.mp hcount)
  exact ⟨entry.1, Keyed.get?_of_mem h hentry⟩

omit [DecidableEq ι] in
/-- Nobody is inside where nobody holds the gate. -/
theorem count_inside_of_holding (hin : g.holding = []) (access : Access) :
    g.count (.inside access) = 0 := by
  refine List.count_eq_zero.mpr fun hmem ↦ ?_
  obtain ⟨entry, hentry, hplace⟩ := List.mem_map.mp hmem
  have hnone := List.filterMap_eq_nil_iff.mp hin entry hentry
  obtain ⟨who, place⟩ := entry
  cases hplace
  cases hnone

/-- Whoever is awake and admitted goes in next. -/
theorem stand?_retry (hw : g.stand? who = some (.awake access))
    (hadmits : g.admits access = true) :
    (g.retry who).stand? who = some (.inside access) := by
  rw [stand?] at hw
  rw [retry, hw]
  exact (stand?_put_self (stands_attempt g who access)).trans (by rw [if_pos hadmits])

/-- Where nobody is inside, one of those who wait is awake and can go in. -/
theorem WF.exists_admitted (h : g.WF) (hin : g.holding = []) (hwait : g.waiting ≠ []) :
    ∃ who access, g.stand? who = some (.awake access) ∧ g.admits access = true := by
  have hreaders : g.readers = 0 := h.readers.trans (count_inside_of_holding hin .read)
  have hwriting : g.writing = false := by
    have hnone := h.writing.trans (count_inside_of_holding hin .write)
    cases hw : g.writing with
    | false => rfl
    | true =>
      rw [hw] at hnone
      cases hnone
  have hwrite : g.admits .write = true := by simp [admits, hreaders, hwriting]
  by_cases hwaiting : g.waitingWriters = 0
  · -- No writer tries, so everybody who waits is a reader, and the gate is open to readers.
    have hread : g.admits .read = true := by simp [admits, hwaiting, hwriting]
    have hopen (access : Access) : g.admits access = true := by cases access <;> assumption
    obtain ⟨who, hwho⟩ := List.exists_mem_of_ne_nil _ hwait
    obtain ⟨⟨who, place⟩, hentry, hplace⟩ := List.mem_filterMap.mp hwho
    have hstand := Keyed.get?_of_mem h.distinct hentry
    cases place with
    | asleep access => exact absurd (hopen access) (by simp [h.kept who access hstand])
    | awake access => exact ⟨who, access, hstand, hopen access⟩
    | inside access => cases hplace
  · -- A writer tries, and as the gate is open to writers it is not asleep.
    have htrying : 0 < g.count (.asleep .write) + g.count (.awake .write) := by
      have := h.waitingWriters
      rw [trying] at this
      omega
    rcases Nat.add_pos_iff_pos_or_pos.mp htrying with hasleep | hawake
    · obtain ⟨who, hwho⟩ := exists_of_count_pos h.distinct hasleep
      exact absurd hwrite (by simp [h.kept who .write hwho])
    · obtain ⟨who, hwho⟩ := exists_of_count_pos h.distinct hawake
      exact ⟨who, .write, hwho, hwrite⟩

/-- After any moves of any number of people, none of whom comes again before leaving: the counters
are the number of readers inside and of writers that try; at most one writer is inside, and then no
reader is; no reader goes in while a writer tries; whoever sleeps is kept out; and where nobody is
inside but somebody waits, somebody is awake who goes in at the next try. -/
theorem exclusive_and_wakeful {moves : List (Move ι)} (orderly : AllOrderly .empty moves) :
    let g := run .empty moves
    (Keyed.keys g.stands).Nodup ∧
      g.readers = g.count (.inside .read) ∧
      g.waitingWriters = g.trying .write ∧
      g.count (.inside .write) ≤ 1 ∧
      (0 < g.count (.inside .write) → g.count (.inside .read) = 0) ∧
      (∀ move who, (g.step move).stand? who = some (.inside .read) →
        g.stand? who ≠ some (.inside .read) → g.trying .write = 0) ∧
      (∀ who access, g.stand? who = some (.asleep access) → g.admits access = false) ∧
      (g.holding = [] → g.waiting ≠ [] → ∃ who access, g.stand? who = some (.awake access) ∧
        g.admits access = true ∧ (g.retry who).stand? who = some (.inside access)) := by
  intro g
  have h : g.WF := wf_empty.run orderly
  refine ⟨h.distinct, h.readers, h.waitingWriters, ?_, fun hwriter ↦ ?_,
    fun move who hin hout ↦ ?_,
    h.kept, fun hin hwait ↦ ?_⟩
  · rw [← h.writing]
    exact Bool.toNat_le _
  · rw [← h.readers]
    apply h.alone
    rw [← h.writing] at hwriter
    cases hw : g.writing with
    | false =>
      rw [hw] at hwriter
      cases hwriter
    | true => rfl
  · have hadmits := admits_of_step hin hout
    simp only [admits, Bool.and_eq_true, beq_iff_eq] at hadmits
    rw [← h.waitingWriters]
    exact hadmits.2
  · obtain ⟨who, access, hw, hadmits⟩ := h.exists_admitted hin hwait
    exact ⟨who, access, hw, hadmits, stand?_retry hw hadmits⟩

/-- A writer comes to a reader inside, and a reader behind it who sleeps again when woken; the
writer goes in and leaves while a second one waits. -/
private def handover : List (Move Nat) :=
  [.enter 1 .read, .enter 2 .write, .enter 3 .read, .leave 1, .retry 3, .retry 2, .enter 4 .write,
    .leave 2]

/-- Between two writers nobody is inside, and somebody goes in next. -/
theorem exclusive_and_wakeful_of_handover :
    AllOrderly .empty handover ∧ (run .empty handover).holding = [] ∧
      (run .empty handover).waiting = [3, 4] ∧
      ∃ who access, (run .empty handover).stand? who = some (.awake access) ∧
        (run .empty handover).admits access = true ∧
        ((run .empty handover).retry who).stand? who = some (.inside access) := by
  have horderly : AllOrderly .empty handover := by decide
  obtain ⟨-, -, -, -, -, -, -, hwakeful⟩ := exclusive_and_wakeful horderly
  exact ⟨horderly, by decide, by decide, hwakeful (by decide) (by decide)⟩

end Gate
end PersonaChat

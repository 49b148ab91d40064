import PersonaChat.Proofs.Desk.Floor
import PersonaChat.Proofs.Desk.Sections
import PersonaChat.Proofs.Registry.Naming

/-!
# Names stay apart while commands run

Only edits give names, so every section of a command keeps the names of a registry apart, and so do
any moves of any commands. From then on a name in any spelling designates one persona only.

Spec guidance: `SPEC_FULL.md`, lines 48–49.
-/

namespace PersonaChat

/-- Every section keeps the names apart. -/
theorem Task.Rewrites.wellNamed {t : Task} {now : Int} {r r' : Registry Json}
    (h : t.Rewrites now r r') (hr : r.WellNamed) : r'.WellNamed := by
  cases h with
  | kept agents_eq => exact hr.of_names_eq (by rw [Registry.names, agents_eq, Registry.names])
  | edited stage makes => exact makes.wellNamed hr
  | begun stage phase found next => exact hr.set_of_name_eq found.stands (by simp)
  | completed stage phase found current => exact hr.set_of_name_eq found.stands (by simp)
  | described found => exact hr.set_of_name_eq found.stands rfl
  | shown found => exact hr.set_of_name_eq found.stands (by simp)

namespace Floor

variable (env : Surroundings) {s : Floor}

/-- Every move keeps the names apart. -/
theorem wellNamed_take (s : Floor) (move : Move) (h : s.world.registry.WellNamed) :
    (s.take env move).world.registry.WellNamed := by
  rcases registry_take env s move with hr | ⟨i, t, -, -, hr⟩
  · rwa [hr]
  · rw [hr]
    exact (t.rewrites_step env s.world).wellNamed h

/-- In a registry whose names are acceptable and differ by more than case, any moves of any
commands leave them so. Then a name in every spelling designates the same single persona, and a
name that no persona has designates none. -/
theorem names_stay_apart (env : Surroundings) (s : Floor) (h : s.world.registry.WellNamed)
    (moves : List Move) :
    let r := (run env s moves).world.registry
    r.WellNamed ∧
      (∀ k p spelling, r.agents[k]? = some p → Name.Matches spelling p.name →
        r.index? spelling = .ok (some k) ∧ r.find? spelling = .ok (some p)) ∧
      ∀ spelling, (∀ p ∈ r.agents, ¬ Name.Matches spelling p.name) →
        r.index? spelling = .ok none ∧ r.find? spelling = .ok none := by
  intro r
  have hr : r.WellNamed :=
    run_of_take env (P := fun s ↦ s.world.registry.WellNamed) (wellNamed_take env) h moves
  refine ⟨hr, fun k p spelling hp hm ↦ ?_, fun spelling hnone ↦ ?_⟩
  · have hd := hr.designates hp hm
    exact ⟨(r.index?_eq_some_iff spelling k).mpr ⟨p, hd⟩,
      (r.find?_eq_some_iff spelling p).mpr ⟨k, hd⟩⟩
  · have hindex : r.index? spelling = .ok none := by
      apply (Name.position?_eq_none_iff spelling r.names).mpr
      intro x hx
      obtain ⟨p, hp, rfl⟩ := List.mem_map.mp hx
      obtain ⟨s, hs⟩ := hr.named p hp
      refine ⟨s, hs, fun hl ↦ hnone p hp ⟨s, hs, hl⟩⟩
    exact ⟨hindex, (r.find?_eq_none_iff spelling).mpr hindex⟩

/-- `Bot` is copied and changes the case of its name, and then the copy may not take that name in
yet another case. -/
theorem names_stay_apart_of_recased :
    let moves : List Move := [.askBot "u1" .copy false "b2", .proceed 0,
      .askBot "u1" .rename false "BOT", .proceed 1,
      .receive "u2" "" [] (.command ⟨"B2", .rename, "bOt", [], false, true⟩), .proceed 2]
    let r := (run .plain (opened .withBot) moves).world.registry
    World.withBot.registry.WellNamed ∧ r.WellNamed ∧ r.names = [.str "BOT", .str "b2"] ∧
      r.index? "bOt" = .ok (some 0) := by
  intro moves r
  have hbot : World.withBot.registry.WellNamed := ⟨["Bot"], rfl, by decide, by decide⟩
  have hnames : r.names = [.str "BOT", .str "b2"] := by decide +kernel
  obtain ⟨hr, hdesignates, -⟩ := names_stay_apart .plain (opened .withBot) hbot moves
  have hfirst : r.names[0]? = some (.str "BOT") := by rw [hnames]; rfl
  rw [Registry.names, List.getElem?_map] at hfirst
  obtain ⟨p, hp, hname⟩ := Option.map_eq_some_iff.mp hfirst
  exact ⟨hbot, hr, hnames, (hdesignates 0 p "bOt" hp ⟨"BOT", hname, by decide⟩).1⟩

end Floor
end PersonaChat

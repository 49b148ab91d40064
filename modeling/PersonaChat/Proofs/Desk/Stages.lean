import PersonaChat.Desk.Task

/-!
# Which stage follows which

After a section a command goes on with what it was doing, turns to the one thing that comes next,
or ends. `Follows` lists these cases, so that what is known of one kind of stage need not be looked
for in the sections of the others.
-/

namespace PersonaChat

/-- The stages that may follow a stage. -/
inductive Stage.Follows (env : Surroundings) (w : World) : Stage → Stage → Prop where
  /-- The command ends. -/
  | ended {stage : Stage} {ending : Ending} : Follows env w stage (.ended ending)
  /-- An edit frees something. -/
  | freeing {e : Edit} {release : Release} {reply : String} :
      Follows env w (.edit e) (.release release reply)
  /-- A conversation goes on. -/
  | talking {g : Generation} : Follows env w (.talk g) (.talk (g.step env w).2)
  /-- The models of the provider that was stored are fetched. -/
  | configured {api : Api String} : Follows env w (.configure api) (.configuring .asked)
  /-- Fetching goes on. -/
  | configuring {f : Fetch} : Follows env w (.configuring f) (.configuring (f.step env w).2)
  /-- The models are fetched in order to show them. -/
  | listing : Follows env w .list (.listing .asked)
  /-- Fetching goes on. -/
  | fetchingList {f : Fetch} : Follows env w (.listing f) (.listing (f.step env w).2)
  /-- The models that are known are shown. -/
  | showing : Follows env w .list (.inspect .models)
  /-- The models that were fetched are shown. -/
  | showingList {f : Fetch} : Follows env w (.listing f) (.inspect .models)
  /-- Fetching goes on. -/
  | fetching {f : Fetch} : Follows env w (.fetch f) (.fetch (f.step env w).2)
  /-- Describing goes on. -/
  | describing {d : Describing} : Follows env w (.describe d) (.describe (d.step env w).2)

namespace Task

variable (env : Surroundings) (w : World) (t : Task)

private theorem follows_fail {w' : World} {stage : Stage} (failure : Failure) :
    stage.Follows env w (fail w' t failure).2 := by
  cases failure <;> exact .ended

/-- The stage after the next section of a command is one of those that may follow. -/
theorem follows_step : t.stage.Follows env w (t.step env w).2.stage := by
  show t.stage.Follows env w (stepStage env w t).2
  unfold stepStage
  split
  · next e hs =>
    rw [hs]
    unfold runEdit
    split
    · exact follows_fail env w t _
    · dsimp only
      split
      · exact .freeing
      · exact .ended
  · exact .ended
  · unfold runInspection
    split
    · exact follows_fail env w t _
    · exact .ended
  · next g hs =>
    rw [hs]
    unfold runTalk
    split
    · exact .ended
    · exact follows_fail env w t _
    · exact .talking
  · next hs =>
    rw [hs]
    exact .configured
  · unfold reportConfigured
    split <;> exact .ended
  · next hs =>
    rw [hs]
    exact .configuring
  · next hs =>
    rw [hs]
    split
    · exact .listing
    · exact .showing
  · next hs =>
    rw [hs]
    unfold reportListed
    split
    · exact .showingList
    · exact .ended
    · exact .ended
  · next hs =>
    rw [hs]
    exact .fetchingList
  · unfold reportFetched
    split <;> exact .ended
  · next hs =>
    rw [hs]
    exact .fetching
  · unfold reportDescribed
    split
    · exact .ended
    · exact follows_fail env w t _
  · next hs =>
    rw [hs]
    exact .describing
  · exact .ended

end Task
end PersonaChat

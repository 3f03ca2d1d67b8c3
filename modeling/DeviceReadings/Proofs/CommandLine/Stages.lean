import DeviceReadings.CommandLine.Run

/-!
# The stages of a run

A run is put together of stages, and each of them says alone whether the run goes on. The equations
here say what comes of a run when the outcome of a stage is known, so that nothing else has to look
into the stages: a torn filter and arguments that cannot be read end a run at once
(`run_of_torn`, `run_of_usageFault`), otherwise it comes to its readings (`run_of_readings`), which
are those of its session (`runReadings_of_session`), one after the other (`printAll_succ`).
-/

namespace DeviceReadings

namespace CommandLine

/-- What a filter lets through of some events and of later ones is shown in this order. Each event
is judged by itself. -/
theorem shownEvents_append (filter : List Directive) (events later : List Event) :
    shownEvents filter (events ++ later) =
      shownEvents filter events ++ shownEvents filter later := by
  rw [shownEvents, List.filter_append, List.flatMap_append]
  rfl

variable {τ : Type} [SeedSource τ] {env : Environment τ}

/-- A torn setting of the filter ends a run before its arguments are looked at. -/
theorem run_of_torn (h : Filter.ofVariable env.filter = .panicked) : run env = .ofPanic := by
  simp only [run, arrange, h]
  rfl

/-- Arguments that cannot be read end a run whose filter can be set up. Nothing has been logged by
then, so the filter does not matter. -/
theorem run_of_usageFault {filter : List Directive} {fault : UsageFault}
    (hfilter : Filter.ofVariable env.filter = .value filter)
    (hargs : read env.arguments = .error fault) : run env = .ofUsageFault fault := by
  simp only [run, arrange, hfilter, hargs]
  rfl

/-- A run that is asked for readings, and whose filter can be set up, comes to its readings without
having shown anything. -/
theorem run_of_readings {filter : List Directive} {options : Options}
    (hfilter : Filter.ofVariable env.filter = .value filter)
    (hargs : read env.arguments = .ok (.readings options)) :
    run env = runReadings options filter (env.files options.config) env.seeds := by
  simp only [run, arrange, hfilter, hargs]
  rfl

/-- Where a session can be started, a run shows what is logged of its start and then its readings.
Nothing is printed at the start. -/
theorem runReadings_of_session {options : Options} {file : FileState} {seeds : τ}
    {started : Run τ Session} {session : Session}
    (hstart : startSession options file seeds = .ok started)
    (houtcome : started.outcome = .value session) (filter : List Directive) :
    let readings := Session.printAll filter options.count (session, started.state)
    runReadings options filter file seeds =
      ⟨readings.code, readings.printed, shownEvents filter started.log ++ readings.logged⟩ := by
  simp only [runReadings, openSession, hstart, Stage.ofRun, houtcome]
  rfl

/-- A reading that does not panic is printed, with what it logs, before the later ones. This is the
step of the inductions on the number of readings. -/
theorem printAll_succ (filter : List Directive) (n : Nat) {s : Session × τ} {v : Int32}
    (h : (Session.next s).outcome = .value v) :
    let later := Session.printAll filter n (Session.next s).state
    Session.printAll filter (n + 1) s =
      ⟨later.code, decimal v.toInt :: later.printed,
        shownEvents filter (Session.next s).log ++ later.logged⟩ := by
  simp only [Session.printAll, Session.printNext, Stage.ofRun, h]
  rfl

end CommandLine

end DeviceReadings

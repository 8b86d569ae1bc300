import TikkaRaffle.Oracle.Keys

/-! The exit code of a graceful shutdown says what became of the drain, whatever
the jobs do and whenever the timer fires. -/
namespace TikkaRaffle.Properties

open TikkaRaffle.Lib TikkaRaffle.Oracle

variable {Job : Type}

/-- At most one exit, with 0 only after each job of the queue has been processed once,
in order, and has settled, and with 1 if the timer has fired. -/
structure ExitSafe (g : GracefulShutdown Job) : Prop where
  once : g.exits.length ≤ 1
  clean : 0 ∈ g.exits → g.calls = g.began ∧ g.settled.map Prod.fst = g.calls
  forced : g.forceExitTimer = .fired → g.exits = [1]

theorem exitSafe_of_sound {g : GracefulShutdown Job} (hg : g.Sound) : ExitSafe g := by
  rcases hg.exits with ⟨htimer, hexits⟩ | hforced | ⟨hphase, htimer, hexits⟩
  · exact ⟨by simp [hexits], by simp [hexits], fun hfired => absurd hfired htimer⟩
  · exact ⟨by simp [hforced], by simp [hforced], fun _ => hforced⟩
  · have hdrain := hg.drain
    simp only [hphase, GracefulShutdown.Drain] at hdrain
    exact ⟨by simp [hexits], fun _ => hdrain, fun hfired => absurd hfired htimer⟩

theorem shutdown_is_safe (events : List (GracefulShutdown.Event Job)) :
    (GracefulShutdown.machine Job).Always ExitSafe {} events :=
  (Machine.always_of_step (m := GracefulShutdown.machine Job) GracefulShutdown.Sound
    (fun _ _ _ hg hok => GracefulShutdown.sound_step hg hok) GracefulShutdown.sound_init
    events).mono fun _ => exitSafe_of_sound

example : ((GracefulShutdown.machine Nat).run {} [.shutdown [7], .settle .failed, .leaveDrain,
    .loaded (.ok none)]).exits = [0] := rfl

/-- The shutdown of every process of a run of the pipeline is safe. -/
theorem pipeline_shutdown_is_safe (oracle : String) (events : List Event) :
    (pipeline oracle).Always (fun s => ExitSafe s.memory.shutdown) {} events :=
  (Machine.always_of_step (m := pipeline oracle) System.Consistent
    (fun _ _ _ hs hok => hs.step hok) System.consistent_init events).mono
    fun _ hs => exitSafe_of_sound hs.placed.sound

end TikkaRaffle.Properties

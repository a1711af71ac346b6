/-
What is remembered of a history.

`Surroundings.amid` says what becomes of the record of the link; it does
not say what was heard on the way, nor in which order reports and calls
came. A `Scene` is the record together with all that: what happened so
far, reports and calls in one order, and the lines the record logged
(`Scene.past`, `Scene.said`). A call is noted down when it is answered,
after the reports it was answered amid.

# Nothing is lost

Remembering changes nothing. A chronicled run is a run amid reports once
the chronicle is forgotten (`Surroundings.amid_of_chronicled`), and every
run amid reports can be chronicled (`Surroundings.chronicled_of_amid`). A
statement about all chronicled runs is therefore one about all runs.
-/
import Uplink.Proofs.Gsm.Lifecycle

namespace Uplink.Gsm

open Proc (Runs)

variable {α : Type}

-- =============================================================== scenes

/-- One thing that happened: a report came, or a call was answered. -/
inductive Happening where
  | heard (report : Report)
  | asked (event : Event Surroundings)

/-- The reports of a history. -/
def Happening.reports (past : List Happening) : List Report :=
  past.filterMap fun
    | .heard report => some report
    | .asked _ => none

/-- The calls of a history with their answers. -/
def Happening.calls (past : List Happening) : List (Event Surroundings) :=
  past.filterMap fun
    | .heard _ => none
    | .asked event => some event

@[simp] theorem Happening.reports_append (past later : List Happening) :
    reports (past ++ later) = reports past ++ reports later :=
  List.filterMap_append

@[simp] theorem Happening.calls_append (past later : List Happening) :
    calls (past ++ later) = calls past ++ calls later :=
  List.filterMap_append

@[simp] theorem Happening.calls_heard (reports : List Report) :
    calls (reports.map .heard) = [] := by
  induction reports with
  | nil => rfl
  | cons report rest ih => exact ih

/-- What the record logs when a report comes. -/
def Link.tells (l : Link) : Report → List Line
  | .ipAcquired info => (l.onIpAcquired info).lines
  | .ipLost => l.onIpLost.lines
  | .linkStatus code => (l.onLinkStatus code).lines
  | .wifi connected => (l.notify connected .wifi).lines
  | .releaseWifi => []

/-- The record, what happened so far, and what the record logged. -/
structure Scene where
  link : Link := {}
  past : List Happening := []
  said : List Line := []

namespace Scene

def hear (s : Scene) (report : Report) : Scene where
  link := s.link.hear report
  past := s.past ++ [.heard report]
  said := s.said ++ s.link.tells report

def hearAll (s : Scene) (reports : List Report) : Scene :=
  reports.foldl hear s

/-- What an operation on the record answers, and the scene after it. -/
def take (s : Scene) (done : Spoken (α × Link)) : α × Scene :=
  (done.value.1,
    { s with link := done.value.2, said := s.said ++ done.lines })

theorem take_pure (s : Scene) (a : α) (l : Link) :
    s.take (pure (a, l)) = (a, { s with link := l }) := by
  show (a, ({ s with link := l, said := s.said ++ [] } : Scene)) = _
  rw [List.append_nil]

/-- A call is noted down with its answer. -/
def note (s : Scene) (event : Event Surroundings) : Scene :=
  { s with past := s.past ++ [.asked event] }

/-- The record of a scene hears the reports it is brought. -/
@[simp] theorem hearAll_link (s : Scene) (reports : List Report) :
    (s.hearAll reports).link = s.link.hearAll reports := by
  induction reports generalizing s with
  | nil => rfl
  | cons report rest ih => exact ih (s.hear report)

/-- Reports are written down in their order. -/
theorem hearAll_past (s : Scene) (reports : List Report) :
    (s.hearAll reports).past = s.past ++ reports.map .heard := by
  induction reports generalizing s with
  | nil => exact (List.append_nil _).symm
  | cons report rest ih =>
    refine (ih (s.hear report)).trans ?_
    show s.past ++ [.heard report] ++ rest.map .heard = _
    rw [List.append_assoc]
    rfl

/-- A property of scenes that no report ends. -/
def Lasts (J : Scene → Prop) : Prop :=
  ∀ s report, J s → J (s.hear report)

/-- What no `Report` ends, no number of them does. -/
theorem Lasts.hearAll {J : Scene → Prop} (hJ : Lasts J) {s : Scene}
    (h : J s) (reports : List Report) : J (s.hearAll reports) := by
  induction reports generalizing s with
  | nil => exact h
  | cons report rest ih => exact ih (hJ s report h)

/-- One access to the record, after any number of reports. -/
def amid : Behaviour Link.Accesses Scene :=
  fun access s r s' =>
    ∃ reports, (s.hearAll reports).take
      ((s.hearAll reports).link.apply access) = (r, s')

/-- A call amid reports, before it is noted down. Giving a session up
(`closing`) is several accesses, and reports may come between any two of
them. -/
def Spans (s : Scene) : (call : GsmCall) → call.Answer → Scene → Prop
  | .record .markDisconnected, r, s' =>
    ∃ t, Runs amid Link.closing s t r s'
  | .record call, r, s' =>
    ∃ reports, (s.hearAll reports).take
      (call.apply (s.hearAll reports).link) = (r, s')
  | .awaitEvent _, r, s' =>
    ∃ reports, r = (s.hearAll reports).link.event
      ∧ s' = { s.hearAll reports with
                link := (s.hearAll reports).link.resetEvents }
  | _, _, s' => ∃ reports, s' = s.hearAll reports

end Scene

/-- Surroundings that answer as they like amid reports, with everything
that happens written down. -/
def Surroundings.chronicled : Behaviour Surroundings Scene :=
  fun call s r s' => ∃ s₁, s.Spans call r s₁ ∧ s' = s₁.note ⟨call, r⟩

-- ====================================================== nothing is lost

/-- An access amid reports, as the record alone sees it. -/
theorem Scene.amid_link {access : Link.Access} {s s' : Scene}
    {r : access.Answer} (h : Scene.amid access s r s') :
    Link.amid access s.link r s'.link := by
  obtain ⟨reports, h⟩ := h
  obtain ⟨rfl, rfl⟩ := Prod.mk.inj h
  rw [Scene.hearAll_link]
  exact ⟨reports, rfl⟩

/-- An access that the record can make amid reports, a `Scene` can. -/
theorem Scene.amid_of_link {access : Link.Access} {s : Scene} {l' : Link}
    {r : access.Answer} (h : Link.amid access s.link r l') :
    ∃ s', Scene.amid access s r s' ∧ s'.link = l' := by
  obtain ⟨reports, h⟩ := h
  rw [← Scene.hearAll_link] at h
  refine ⟨_, ⟨reports, Prod.ext ?_ rfl⟩, ?_⟩
  · exact congrArg (·.1) h
  · exact congrArg (·.2) h

/-- What happened may be forgotten. -/
theorem Surroundings.amid_of_chronicled {call : GsmCall} {s s' : Scene}
    {r : call.Answer} (h : chronicled call s r s') :
    amid call s.link r s'.link := by
  obtain ⟨s₁, h, rfl⟩ := h
  show amid call s.link r s₁.link
  cases call with
  | record call =>
    cases call with
    | markDisconnected =>
      obtain ⟨t, h⟩ := h
      exact ⟨t, h.map Scene.link fun _ _ _ _ => Scene.amid_link⟩
    | isConnected | markConnected | resetEvents =>
      obtain ⟨reports, h⟩ := h
      obtain ⟨rfl, rfl⟩ := Prod.mk.inj h
      rw [Scene.hearAll_link]
      exact ⟨reports, rfl⟩
  | awaitEvent timeout =>
    obtain ⟨reports, rfl, rfl⟩ := h
    rw [Scene.hearAll_link]
    exact ⟨reports, rfl, rfl⟩
  | modem call | drive pin high | netif call | build uart
  | resolve host timeout =>
    obtain ⟨reports, rfl⟩ := h
    exact ⟨reports, s.hearAll_link reports⟩

/-- Whatever happens can be written down. -/
theorem Surroundings.chronicled_of_amid {call : GsmCall} {s : Scene}
    {l' : Link} {r : call.Answer} (h : amid call s.link r l') :
    ∃ s', chronicled call s r s' ∧ s'.link = l' := by
  -- noting the call behind what it spans leaves the link alone
  suffices hs : ∃ s', s.Spans call r s' ∧ s'.link = l' by
    obtain ⟨s', hs, hl⟩ := hs
    exact ⟨_, ⟨s', hs, rfl⟩, hl⟩
  cases call with
  | record call =>
    cases call with
    | markDisconnected =>
      obtain ⟨t, h⟩ := h
      obtain ⟨s', h, hl⟩ := h.lift Scene.link
        (fun _ _ _ _ => Scene.amid_of_link) rfl
      exact ⟨s', ⟨t, h⟩, hl⟩
    | isConnected | markConnected | resetEvents =>
      obtain ⟨reports, h⟩ := h
      rw [← Scene.hearAll_link] at h
      refine ⟨_, ⟨reports, Prod.ext ?_ rfl⟩, ?_⟩
      · exact congrArg (·.1) h
      · exact congrArg (·.2) h
  | awaitEvent timeout =>
    obtain ⟨reports, rfl, rfl⟩ := h
    rw [← Scene.hearAll_link]
    exact ⟨_, ⟨reports, rfl, rfl⟩, rfl⟩
  | modem call | drive pin high | netif call | build uart
  | resolve host timeout =>
    obtain ⟨reports, rfl⟩ := h
    exact ⟨_, ⟨reports, rfl⟩, s.hearAll_link reports⟩

-- =========================================================== what passes

/-- Giving a session up adds to the past what is heard meanwhile. -/
theorem Scene.amid_past {p : Proc Link.Accesses α} {s s' : Scene}
    {t : List (Event Link.Accesses)} {a : α}
    (h : Runs Scene.amid p s t a s') :
    ∃ reports : List Report, s'.past = s.past ++ reports.map .heard := by
  induction h with
  | done a s => exact ⟨[], (List.append_nil _).symm⟩
  | @call access next s s₁ s' r t a hr _ ih =>
    obtain ⟨before, hr⟩ := hr
    obtain ⟨later, hlater⟩ := ih
    refine ⟨before ++ later, ?_⟩
    have hs₁ : s₁.past = s.past ++ before.map .heard := by
      rw [← (Prod.mk.inj hr).2, ← Scene.hearAll_past]
    rw [hlater, hs₁, List.map_append, List.append_assoc]

/-- Every call adds to the past what is heard meanwhile, and itself. -/
theorem Surroundings.chronicled_past {call : GsmCall} {s s' : Scene}
    {r : call.Answer} (h : chronicled call s r s') :
    ∃ reports : List Report, s'.past
      = s.past ++ reports.map .heard ++ [.asked ⟨call, r⟩] := by
  obtain ⟨s₁, h, rfl⟩ := h
  suffices hs : ∃ reports : List Report,
      s₁.past = s.past ++ reports.map .heard by
    obtain ⟨reports, hs⟩ := hs
    exact ⟨reports, congrArg (· ++ [_]) hs⟩
  cases call with
  | record call =>
    cases call with
    | markDisconnected =>
      obtain ⟨t, h⟩ := h
      exact Scene.amid_past h
    | isConnected | markConnected | resetEvents =>
      obtain ⟨reports, h⟩ := h
      obtain ⟨rfl, rfl⟩ := Prod.mk.inj h
      exact ⟨reports, s.hearAll_past reports⟩
  | awaitEvent timeout =>
    obtain ⟨reports, rfl, rfl⟩ := h
    exact ⟨reports, s.hearAll_past reports⟩
  | modem call | drive pin high | netif call | build uart
  | resolve host timeout =>
    obtain ⟨reports, rfl⟩ := h
    exact ⟨reports, s.hearAll_past reports⟩

/-- What a quiet call leaves of the record: two of them take its event. -/
def GsmCall.leaves (call : GsmCall) (l : Link) : Link :=
  match call with
  | .record .resetEvents | .awaitEvent _ => l.resetEvents
  | _ => l

/-- Across a `quiet` call the record hears reports, and may give its event
away. -/
theorem Surroundings.chronicled_quiet {call : GsmCall} {s s' : Scene}
    {r : call.Answer} (hc : call.quiet = true)
    (h : chronicled call s r s') :
    ∃ reports, s' = ({ s.hearAll reports with
        link := call.leaves (s.hearAll reports).link } : Scene).note
      ⟨call, r⟩ := by
  obtain ⟨s₁, h, rfl⟩ := h
  cases call with
  | record call =>
    cases call with
    | markConnected | markDisconnected => cases hc
    | isConnected | resetEvents =>
      obtain ⟨reports, h⟩ := h
      obtain ⟨rfl, rfl⟩ := Prod.mk.inj ((Scene.take_pure ..).symm.trans h)
      exact ⟨reports, rfl⟩
  | awaitEvent timeout =>
    obtain ⟨reports, -, rfl⟩ := h
    exact ⟨reports, rfl⟩
  | modem call | drive pin high | netif call | build uart
  | resolve host timeout =>
    obtain ⟨reports, rfl⟩ := h
    exact ⟨reports, rfl⟩

/-- What no report ends, and no `quiet` call of some kind once it is noted
down, these calls keep. -/
theorem Scene.Lasts.preserved {P : GsmCall → Prop} {J : Scene → Prop}
    (hJ : Scene.Lasts J) (hquiet : ∀ call, P call → call.quiet = true)
    (hnote : ∀ (s : Scene) (event : Event Surroundings), P event.call →
      J s → J (({ s with link := event.call.leaves s.link } : Scene).note
        event)) :
    Surroundings.chronicled.contract.Preserves P J := by
  intro call s hc h
  refine ⟨trivial, fun r s' hr => ?_⟩
  obtain ⟨reports, rfl⟩ :=
    Surroundings.chronicled_quiet (hquiet call hc) hr
  exact hnote _ ⟨call, r⟩ hc (hJ.hearAll h reports)

/-- A run adds its calls to the past, in order. -/
theorem Surroundings.chronicled_calls {p : Proc Surroundings α}
    {s s' : Scene} {t : List (Event Surroundings)} {a : α}
    (h : Runs chronicled p s t a s') :
    Happening.calls s'.past = Happening.calls s.past ++ t := by
  induction h with
  | done a s => exact (List.append_nil _).symm
  | @call c k s s₁ s' r t a hr _ ih =>
    obtain ⟨reports, hs₁⟩ := chronicled_past hr
    have hc : Happening.calls s₁.past
        = Happening.calls s.past ++ [⟨c, r⟩] := by
      rw [hs₁, Happening.calls_append, Happening.calls_append,
        Happening.calls_heard, List.append_nil]
      rfl
    rw [ih, hc, List.append_assoc]
    rfl

-- ============================================================ histories

/-- A manager and a scene, with no operation under way, as some history of
operations and reports leads to them. -/
inductive Chronicled (settings : Config.Settings) :
    Manager → Scene → Prop
  | made : Chronicled settings (Manager.new settings).value {}
  | heard {m : Manager} {s : Scene} (report : Report) :
      Chronicled settings m s → Chronicled settings m (s.hear report)
  | operated {m m' : Manager} {s s' : Scene} (o : Operation)
      {t : List (Event Surroundings)} {r : o.Answer} :
      Chronicled settings m s →
      Runs Surroundings.chronicled (o.act.run m) s t (r, m') s' →
      Chronicled settings m' s'

/-- A `Chronicled` history is one of those that lead to the record. -/
theorem Chronicled.reached {settings : Config.Settings} {m : Manager}
    {s : Scene} (h : Chronicled settings m s) :
    Reached settings m s.link := by
  induction h with
  | made => exact .made
  | heard report _ ih => exact .heard report ih
  | operated o _ hr ih =>
    exact .operated o ih (hr.map Scene.link fun _ _ _ _ =>
      Surroundings.amid_of_chronicled)

/-- Every history can be `chronicled`. -/
theorem Reached.chronicled {settings : Config.Settings} {m : Manager}
    {l : Link} (h : Reached settings m l) :
    ∃ s, Chronicled settings m s ∧ s.link = l := by
  induction h with
  | made => exact ⟨{}, .made, rfl⟩
  | heard report _ ih =>
    obtain ⟨s, h, rfl⟩ := ih
    exact ⟨s.hear report, .heard report h, rfl⟩
  | operated o _ hr ih =>
    obtain ⟨s, h, rfl⟩ := ih
    obtain ⟨s', hr, hl⟩ := hr.lift Scene.link
      (fun _ _ _ _ => Surroundings.chronicled_of_amid) rfl
    exact ⟨s', .operated o h hr, hl⟩

-- ===================================================== concrete ones

/-- At once, with no report in between, is one way for a program of
accesses to run. -/
theorem Scene.amid_of_runAll (p : Proc Link.Accesses α) (s : Scene) :
    ∃ t, Runs Scene.amid p s t (s.take (Link.runAll p s.link)).1
      (s.take (Link.runAll p s.link)).2 := by
  induction p generalizing s with
  | done a => exact ⟨[], by rw [Link.runAll, take_pure]; exact .done a s⟩
  | call access next ih =>
    obtain ⟨t, h⟩ := ih (s.link.apply access).value.1
      (s.take (s.link.apply access)).2
    have first : Scene.amid access s (s.take (s.link.apply access)).1
        (s.take (s.link.apply access)).2 := ⟨[], rfl⟩
    refine ⟨_ :: t, .call first ?_⟩
    simpa [take, Link.runAll, bind, Spoken.bind, List.append_assoc]
      using h

/-- To give a session up (`markDisconnected`) at once is to make its
accesses with nothing in between. -/
theorem Scene.take_markDisconnected (s : Scene) :
    s.take (RecordCall.apply s.link .markDisconnected)
      = s.take (Link.runAll Link.closing s.link) := by
  simp [take, RecordCall.apply, Link.markDisconnected, pure,
    Spoken.pure, bind, Spoken.bind]

/-- What is heard before a program of accesses is heard before the first
of them. -/
theorem Scene.amid_later {access : Link.Access}
    {next : access.Answer → Proc Link.Accesses α} {s s' : Scene}
    {t : List (Event Link.Accesses)} {a : α} (reports : List Report)
    (h : Runs Scene.amid (.call access next) (s.hearAll reports) t a s') :
    Runs Scene.amid (.call access next) s t a s' := by
  cases h with
  | call hr hnext =>
    obtain ⟨later, hr⟩ := hr
    refine .call ⟨reports ++ later, ?_⟩ hnext
    rw [← hr]
    simp only [hearAll, List.foldl_append]

/-- Surroundings that give these replies at once, after these reports. -/
def Scene.answering (before : GsmCall → List Report)
    (reply : (call : GsmCall) → call.Answer) (call : GsmCall)
    (s : Scene) : call.Answer × Scene :=
  let s := s.hearAll (before call)
  let (r, s) : call.Answer × Scene := match call with
    | .record call => s.take (call.apply s.link)
    | .awaitEvent _ =>
      (s.link.event, { s with link := s.link.resetEvents })
    | call => (reply call, s)
  (r, s.note ⟨call, r⟩)

/-- Surroundings that give some replies at once, after some reports, are
one of those that may. -/
theorem Scene.chronicled_answering (before : GsmCall → List Report)
    (reply : (call : GsmCall) → call.Answer) (call : GsmCall)
    (s : Scene) :
    Surroundings.chronicled call s (answering before reply call s).1
      (answering before reply call s).2 := by
  refine ⟨_, ?_, rfl⟩
  cases call with
  | record call =>
    cases call with
    | markDisconnected =>
      obtain ⟨t, h⟩ := amid_of_runAll Link.closing
        (s.hearAll (before (.record .markDisconnected)))
      refine ⟨t, amid_later (before (.record .markDisconnected)) ?_⟩
      rw [← take_markDisconnected] at h
      exact h
    | isConnected | markConnected | resetEvents => exact ⟨_, rfl⟩
  | awaitEvent timeout => exact ⟨_, rfl, rfl⟩
  | modem call | drive pin high | netif call | build uart
  | resolve host timeout => exact ⟨_, rfl⟩

end Uplink.Gsm

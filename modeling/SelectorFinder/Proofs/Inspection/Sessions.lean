import SelectorFinder.Inspection.Session
import SelectorFinder.Proofs.Dom.TreeShape

/-!
# Runs of Inspection Sessions

A run of a session is a list of calls; each call has its answer, and the log of the run holds
both. The three fields of a session's state are a summary of that log: what has happened
since the session was last switched on decides what is selected and whether it is pinned
(`Tells`). One call keeps this true (`Tells.call`), so every run does. Several sessions that
are called in turns do not notice each other, whatever the order of the calls
(`runAll_own`).

## Main results

* `Tells.call`, `Tells.run`: the state tells what the log says, after each call and run.
* `runAll_own`: a session among others does what it does alone.
* `sessions_over_runs`: state and answers of each session after any interleaved run.
-/

namespace SelectorFinder.Inspection

open SelectorFinder.Dom

/-! ### Calls, answers and runs -/

/-- What a session can be called for. -/
inductive Call where
  | toggle
  | hover (d : Document) (n : NodeId)
  | click (d : Document) (n : NodeId)
  | escape

/-- What a session answers to a call. -/
inductive Answer where
  /-- Whether the session is on after a toggle. -/
  | switched (active : Bool)
  /-- The candidates for the node, if the session lists any. -/
  | listed (candidates : Option (List Candidate))
  /-- Nothing is answered to an escape. -/
  | done

/-- A call with its answer. -/
structure Exchange where
  call : Call
  answer : Answer

namespace Call

/-- Whether a call is a click. -/
def isClick : Call → Bool
  | click _ _ => true
  | _ => false

/-- Whether a call is an escape. -/
def isEscape : Call → Bool
  | escape => true
  | _ => false

end Call

namespace Exchange

/-- The session was switched on. -/
def Activates (x : Exchange) : Prop :=
  x.answer = .switched true

/-- The node that the session gave candidates for. -/
def listed? : Exchange → Option NodeId
  | ⟨.hover _ n, .listed (some _)⟩ => some n
  | ⟨.click _ n, .listed (some _)⟩ => some n
  | _ => none

/-- A click that the session gave candidates for. -/
def isListedClick (x : Exchange) : Bool :=
  x.call.isClick && x.listed?.isSome

/-- Neither did the session give candidates, nor was it a click or an escape. -/
def isIdle (x : Exchange) : Bool :=
  x.listed?.isNone && !x.call.isClick && !x.call.isEscape

end Exchange

namespace Session

/-- The answer to a call, and the session after it. -/
def call (s : Session) : Call → Answer × Session
  | .toggle => (.switched s.toggle.active, s.toggle)
  | .hover d n => (.listed (s.hover d n).1, (s.hover d n).2)
  | .click d n => (.listed (s.click d n).1, (s.click d n).2)
  | .escape => (.done, s.escape)

/-- The exchange of a call. -/
def exchange (s : Session) (c : Call) : Exchange :=
  ⟨c, (s.call c).1⟩

/-- The log of calls one after the other, and the session after them. -/
def run (s : Session) : List Call → List Exchange × Session
  | [] => ([], s)
  | c :: cs => (s.exchange c :: ((s.call c).2.run cs).1, ((s.call c).2.run cs).2)

/-- The log of calls on several sessions, each call with the index of the session that it is
made on, and the sessions after them. -/
def runAll (sessions : List Session) : List (Nat × Call) → List (Nat × Exchange) × List Session
  | [] => ([], sessions)
  | (i, c) :: cs =>
    match sessions[i]? with
    | none => runAll sessions cs
    | some s =>
      let after := runAll (sessions.set i (s.call c).2) cs
      ((i, s.exchange c) :: after.1, after.2)

end Session

/-- What belongs to the session of the index. -/
def own {α : Type} (i : Nat) (entries : List (Nat × α)) : List α :=
  (entries.filter (·.1 == i)).map Prod.snd

section Own

variable {α : Type} {i j : Nat} {x : α} {entries : List (Nat × α)}

/-- Nothing belongs to any session where there is nothing. -/
@[simp] theorem own_nil : own i ([] : List (Nat × α)) = [] := rfl

/-- What has the index belongs to the session. -/
@[simp] theorem own_cons_self : own i ((i, x) :: entries) = x :: own i entries := by
  simp [own]

/-- What has another index does not. -/
theorem own_cons_of_ne (h : j ≠ i) : own i ((j, x) :: entries) = own i entries := by
  simp [own, h]

end Own

/-! ### What has happened since a session was switched on -/

/-- **The log since the session was last switched on**, without that exchange itself. -/
def Since (log since : List Exchange) : Prop :=
  ∃ earlier x, log = earlier ++ x :: since ∧ x.Activates ∧ ∀ y ∈ since, ¬ y.Activates

/-- The node of the latest hover or click that candidates were given for. -/
def latestListed? (log : List Exchange) : Option NodeId :=
  (log.filterMap Exchange.listed?).getLast?

/-- **The latest call that candidates were given for was a click**, and no click or escape
followed it. -/
def PinnedBy (log : List Exchange) : Prop :=
  ∃ before x after, log = before ++ x :: after ∧ x.isListedClick = true ∧
    ∀ y ∈ after, y.isIdle = true

variable {log since : List Exchange} {x : Exchange} {s s' : Session}

/-- Nothing has happened yet when the session has just been switched on. -/
theorem since_concat_of_activates (hx : x.Activates) (log : List Exchange) :
    Since (log ++ [x]) [] :=
  ⟨log, x, rfl, hx, by simp⟩

/-- What does not switch the session on has happened since as well. -/
theorem Since.concat (h : Since log since) (hx : ¬ x.Activates) :
    Since (log ++ [x]) (since ++ [x]) := by
  obtain ⟨earlier, z, rfl, hz, hsince⟩ := h
  refine ⟨earlier, z, by simp, hz, fun y hy => ?_⟩
  rcases List.mem_append.1 hy with hy | hy
  · exact hsince y hy
  · exact List.mem_singleton.1 hy ▸ hx

/-- Nothing was listed before the first call. -/
@[simp] theorem latestListed?_nil : latestListed? [] = none := rfl

/-- The last exchange lists the latest node, if it lists one. -/
@[simp] theorem latestListed?_concat (log : List Exchange) (x : Exchange) :
    latestListed? (log ++ [x]) = x.listed?.or (latestListed? log) := by
  cases h : x.listed? <;> simp [latestListed?, h]

/-- What has just been switched on is not pinned. -/
theorem not_pinnedBy_nil : ¬ PinnedBy [] := by
  rintro ⟨before, x, after, h, -⟩
  simp at h

/-- **The last exchange decides**: it is such a click, or it is idle and there was one. -/
theorem pinnedBy_concat_iff :
    PinnedBy (log ++ [x]) ↔ x.isListedClick = true ∨ PinnedBy log ∧ x.isIdle = true := by
  constructor
  · rintro ⟨before, z, after, heq, hz, hafter⟩
    rcases List.eq_nil_or_concat after with rfl | ⟨after, y, rfl⟩
    · obtain ⟨-, hx⟩ := List.append_inj' heq rfl
      obtain rfl : x = z := List.singleton_inj.1 hx
      exact .inl hz
    · rw [List.concat_eq_append, ← List.cons_append, ← List.append_assoc] at heq
      obtain ⟨rfl, hx⟩ := List.append_inj' heq rfl
      obtain rfl : x = y := List.singleton_inj.1 hx
      exact .inr ⟨⟨before, z, after, rfl, hz, fun y hy => hafter y (by simp [hy])⟩,
        hafter x (by simp)⟩
  · rintro (hx | ⟨⟨before, z, after, rfl, hz, hafter⟩, hx⟩)
    · exact ⟨log, x, [], rfl, hx, by simp⟩
    · refine ⟨before, z, after ++ [x], by simp, hz, fun y hy => ?_⟩
      rcases List.mem_append.1 hy with hy | hy
      · exact hafter y hy
      · exact List.mem_singleton.1 hy ▸ hx

/-! ### The state of a session tells what has happened -/

/-- **The state tells what the log says.** -/
structure Tells (log : List Exchange) (s : Session) : Prop where
  /-- A session that is off is not pinned and selects nothing. -/
  inactive : s.active = false → s.pinned = false ∧ s.selected = none
  /-- A pinned session is on and selects something. -/
  pinned : s.pinned = true → s.active = true ∧ s.selected.isSome = true
  /-- What a session that is on selects, and whether it is pinned, is decided by what has
  happened since it was last switched on. -/
  active : s.active = true → ∃ since, Since log since ∧ s.selected = latestListed? since ∧
    (s.pinned = true ↔ PinnedBy since)

/-- Nothing is to be told of a session that is off. -/
theorem tells_of_inactive (ha : s.active = false) (hp : s.pinned = false)
    (hs : s.selected = none) (log : List Exchange) : Tells log s where
  inactive _ := ⟨hp, hs⟩
  pinned h := by simp [hp] at h
  active h := by simp [ha] at h

/-- The session is switched on. -/
theorem tells_of_activates (hx : x.Activates) (ha : s.active = true) (hp : s.pinned = false)
    (hs : s.selected = none) (log : List Exchange) : Tells (log ++ [x]) s where
  inactive h := by simp [ha] at h
  pinned h := by simp [hp] at h
  active _ := ⟨[], since_concat_of_activates hx log, hs, by simp [hp, not_pinnedBy_nil]⟩

namespace Tells

/-- **A session that stays on**: its selection changes with the node that candidates are
given for, and it is pinned by a click of that kind until an exchange that is not idle. -/
theorem stay (h : Tells log s) (ha : s.active = true) (ha' : s'.active = true)
    (hx : ¬ x.Activates) (hselected : s'.selected = x.listed?.or s.selected)
    (hpinned : s'.pinned = (x.isListedClick || s.pinned && x.isIdle)) :
    Tells (log ++ [x]) s' where
  inactive h' := by simp [ha'] at h'
  pinned h' := by
    refine ⟨ha', ?_⟩
    rw [hselected, Option.isSome_or, Bool.or_eq_true]
    rw [hpinned, Bool.or_eq_true, Bool.and_eq_true] at h'
    rcases h' with hclick | ⟨hp, -⟩
    · exact .inl (Bool.and_eq_true_iff.1 hclick).2
    · exact .inr (h.pinned hp).2
  active _ := by
    obtain ⟨since, hsince, hsel, hpin⟩ := h.active ha
    refine ⟨since ++ [x], hsince.concat hx, ?_, ?_⟩
    · rw [hselected, hsel, latestListed?_concat]
    · rw [hpinned, pinnedBy_concat_iff, ← hpin, Bool.or_eq_true, Bool.and_eq_true]

/-- **Each call keeps the state telling what the log says.** -/
theorem call (h : Tells log s) (c : Call) : Tells (log ++ [s.exchange c]) (s.call c).2 := by
  obtain ⟨choices, active, pinned, selected⟩ := s
  cases active with
  | false =>
    obtain ⟨rfl, rfl⟩ : pinned = false ∧ selected = none := h.inactive rfl
    cases c with
    | toggle => exact tells_of_activates (by rfl) rfl rfl rfl log
    | hover d n | click d n | escape => exact tells_of_inactive rfl rfl rfl _
  | true =>
    cases c with
    | toggle => exact tells_of_inactive rfl rfl rfl _
    | hover d n | click d n => cases pinned <;> exact h.stay rfl rfl nofun rfl rfl
    | escape =>
      cases pinned with
      | false => exact tells_of_inactive rfl rfl rfl _
      | true => exact h.stay rfl rfl nofun rfl rfl

/-- **A whole run keeps the state telling what the log says**, by induction on the calls. -/
theorem run (h : Tells log s) (cs : List Call) : Tells (log ++ (s.run cs).1) (s.run cs).2 := by
  induction cs generalizing log s with
  | nil => simpa [Session.run] using h
  | cons c cs ih => simpa [Session.run] using ih (h.call c)

/-- A click on a pinned session lets go of it and keeps the selection. -/
theorem click_pinned (h : Tells log s) (hp : s.pinned = true) (d : Document) (n : NodeId) :
    (s.click d n).2 = { s with pinned := false } := by
  simp [Session.click, (h.pinned hp).1, hp]

/-- After two escapes a session is as it was at the start. -/
theorem escape_escape (h : Tells log s) : s.escape.escape = .start s.choices := by
  obtain ⟨choices, active, pinned, selected⟩ := s
  cases active with
  | false =>
    obtain ⟨rfl, rfl⟩ : pinned = false ∧ selected = none := h.inactive rfl
    rfl
  | true => cases pinned <;> rfl

end Tells

/-- A new session is inactive, as nothing has switched it on. -/
theorem tells_start (choices : Choices) : Tells [] (.start choices) :=
  tells_of_inactive rfl rfl rfl []

/-! ### Answers and sessions among others -/

namespace Session

/-- A hover is answered with candidates if the session is active and not pinned. -/
theorem hover_answer (s : Session) (d : Document) (n : NodeId) :
    (s.hover d n).1 = if s.active && !s.pinned then some (s.candidates d n) else none := by
  obtain ⟨choices, active, pinned, selected⟩ := s
  cases active <;> cases pinned <;> rfl

/-- A click is answered with candidates if the session is active and not pinned. -/
theorem click_answer (s : Session) (d : Document) (n : NodeId) :
    (s.click d n).1 = if s.active && !s.pinned then some (s.candidates d n) else none := by
  obtain ⟨choices, active, pinned, selected⟩ := s
  cases active <;> cases pinned <;> rfl

/-- No call changes what was chosen for the session. -/
theorem choices_call (s : Session) (c : Call) : (s.call c).2.choices = s.choices := by
  obtain ⟨choices, active, pinned, selected⟩ := s
  cases c <;> cases active <;> cases pinned <;> rfl

/-- No call changes the choices of a session. -/
theorem choices_run (s : Session) (cs : List Call) : (s.run cs).2.choices = s.choices := by
  induction cs generalizing s with
  | nil => rfl
  | cons c cs ih => exact (ih (s.call c).2).trans (s.choices_call c)

/-- **Two escapes switch any session off.** -/
theorem active_escape_escape (s : Session) : s.escape.escape.active = false := by
  obtain ⟨choices, active, pinned, selected⟩ := s
  cases active <;> cases pinned <;> rfl

/-- **A session among others** does what it does alone: its state is that after its own calls,
and its part of the log is their log. The induction is on the calls of all sessions. -/
theorem runAll_own {sessions : List Session} {i : Nat} (h : sessions[i]? = some s)
    (calls : List (Nat × Call)) :
    (runAll sessions calls).2[i]? = some (s.run (own i calls)).2 ∧
      own i (runAll sessions calls).1 = (s.run (own i calls)).1 := by
  induction calls generalizing sessions s with
  | nil => exact ⟨h, rfl⟩
  | cons entry calls ih =>
    obtain ⟨j, c⟩ := entry
    by_cases hj : j = i
    · subst hj
      have hlt : j < sessions.length := (List.getElem?_eq_some_iff.1 h).1
      obtain ⟨hstate, hlog⟩ := ih (List.getElem?_set_self hlt (a := (s.call c).2))
      rw [runAll, h]
      simpa [run] using ⟨hstate, hlog⟩
    · rw [own_cons_of_ne hj, runAll]
      cases hs : sessions[j]? with
      | none => exact ih h
      | some t =>
        have hother : (sessions.set j (t.call c).2)[i]? = some s := by
          rw [List.getElem?_set_ne hj, h]
        obtain ⟨hstate, hlog⟩ := ih hother
        exact ⟨hstate, (own_cons_of_ne hj).trans hlog⟩

end Session

/-- **Runs of sessions.** Let sessions be called in any order, each on any documents and
nodes. Then each of them is in the state that its own calls alone lead to, and gives the
answers that they alone give. That state is told by what has happened since the session was
last switched on; a hover or a click is answered, with the candidates of the inspector for
the document, exactly when the session is on and not pinned; a click on a pinned session lets
go of it and keeps the selection; and after two escapes the session is as it was at the
start. -/
theorem sessions_over_runs (choices : List Choices) (calls : List (Nat × Call)) (i : Nat)
    (c : Choices) (hi : choices[i]? = some c) :
    ∃ log s, (Session.start c).run (own i calls) = (log, s) ∧
      (Session.runAll (choices.map .start) calls).2[i]? = some s ∧
      own i (Session.runAll (choices.map .start) calls).1 = log ∧
      Tells log s ∧
      (∀ d n, (s.hover d n).1 = if s.active && !s.pinned then
        some ((Inspector.ofDocument d c).candidates n) else none) ∧
      (∀ d n, (s.click d n).1 = if s.active && !s.pinned then
        some ((Inspector.ofDocument d c).candidates n) else none) ∧
      (∀ d n, s.pinned = true → (s.click d n).2 = { s with pinned := false }) ∧
      s.escape.escape = .start c ∧ ∀ t : Session, t.escape.escape.active = false := by
  have hstart : (choices.map Session.start)[i]? = some (.start c) := by
    rw [List.getElem?_map, hi, Option.map_some]
  obtain ⟨hstate, hlog⟩ := Session.runAll_own hstart calls
  have htells : Tells ((Session.start c).run (own i calls)).1
      ((Session.start c).run (own i calls)).2 := by
    simpa using (tells_start c).run (own i calls)
  have hchoices := (Session.start c).choices_run (own i calls)
  refine ⟨_, _, rfl, hstate, hlog, htells, fun d n => ?_, fun d n => ?_,
    fun d n hp => htells.click_pinned hp d n, ?_, Session.active_escape_escape⟩
  · rw [Session.hover_answer, Session.candidates, hchoices]
    rfl
  · rw [Session.click_answer, Session.candidates, hchoices]
    rfl
  · rw [htells.escape_escape, hchoices]
    rfl

/-- Two sessions in turns, one that is pinned by a click while the other comes and goes: the
first holds the node of its click, and its part of the log says so. -/
theorem sessions_over_runs_inTurns :
    ∃ log sessions s since, Session.runAll [.start ⟨false⟩, .start ⟨true⟩]
        [(0, .toggle), (1, .toggle), (0, .click .formPage 4), (1, .hover .formPage 7),
          (1, .escape), (0, .hover .formPage 7)] = (log, sessions) ∧
      sessions[0]? = some s ∧ s.selected = some 4 ∧ s.pinned = true ∧
      Since (own 0 log) since ∧ PinnedBy since := by
  obtain ⟨log, s, hrun, hstate, hlog, htells, -⟩ := sessions_over_runs [⟨false⟩, ⟨true⟩]
    [(0, .toggle), (1, .toggle), (0, .click .formPage 4), (1, .hover .formPage 7),
      (1, .escape), (0, .hover .formPage 7)] 0 ⟨false⟩ rfl
  obtain rfl : s = ⟨⟨false⟩, true, true, some 4⟩ := (congrArg Prod.snd hrun).symm
  obtain ⟨since, hsince, -, hpinned⟩ := htells.active rfl
  exact ⟨_, _, _, since, rfl, hstate, rfl, rfl, hlog ▸ hsince, hpinned.1 rfl⟩

end SelectorFinder.Inspection

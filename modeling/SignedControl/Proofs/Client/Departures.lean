import Mathlib.Data.List.Induction
import Mathlib.Data.List.Nodup
import Mathlib.Data.List.Perm.Subperm
import SignedControl.Client.Pending

/-!
# How requests in flight leave

A request is in flight until its reply comes, until its time is up and somebody looks at the clock,
or until the set is cleared. A reply and the clock ask the same question of it, so that it does not
matter which of the two comes first. Two requests in flight may be equal in all they hold. To follow
each of them, a ledger keeps them by the number of their push.

* `PendingRequest.InTime`: the question, said of the request's age. `isLive_iff` is what is asked.
* `PendingSet.Takes`, `PendingSet.takes_takeLive?`: which request a reply takes, and what it leaves.
* `PendingSet.takeLive?_expire`, `PendingSet.expire_expire`: a reply and the clock, the clock twice.
* `Ledger.Accounts`: what a ledger says of a set. An event keeps it (`Ledger.Accounts.enter`), and
  so does a run (`Ledger.accounts_after`).
* `PendingSet.each_leaves_once`: all of this for the requests that have been pushed.
-/

namespace SignedControl

/-! ## Age -/

namespace PendingRequest

variable {p : PendingRequest} {now earlier later : Instant}

/-- How old a request is; it is not younger than nothing if the clock reads less than when it was
sent. -/
def age (p : PendingRequest) (now : Instant) : Int := max ((now : Int) - p.sentAt) 0

/-- The time for the request's reply is not up. -/
def InTime (p : PendingRequest) (now : Instant) : Prop := p.age now < p.timeout

instance (p : PendingRequest) (now : Instant) : Decidable (p.InTime now) :=
  inferInstanceAs (Decidable (_ < _))

theorem age_eq_since (p : PendingRequest) (now : Instant) :
    p.age now = (now.since p.sentAt : Int) := by
  rw [age, ← Int.toNat_eq_max, Int.toNat_sub]
  rfl

theorem isLive_iff : p.isLive now = true ↔ p.InTime now := by
  rw [InTime, age_eq_since, Int.ofNat_lt]
  exact decide_eq_true_iff

theorem isLive_eq_decide (p : PendingRequest) (now : Instant) :
    p.isLive now = decide (p.InTime now) := by
  rw [Bool.eq_iff_iff, isLive_iff, decide_eq_true_iff]

/-- What is in time has been in time. -/
theorem InTime.of_le (h : p.InTime later) (hle : earlier ≤ later) : p.InTime earlier := by
  have hage : p.age earlier ≤ p.age later := by
    rw [age_eq_since, age_eq_since]
    exact Int.ofNat_le.mpr (Nat.sub_le_sub_right hle p.sentAt)
  exact Int.lt_of_le_of_lt hage h

end PendingRequest

/-! ## Replies and the clock -/

namespace PendingSet

/-- A reply asks for the number and for the time. -/
theorem takeLive?_eq_find? (s : PendingSet) (sequence : UInt32) (now : Instant) :
    s.takeLive? sequence now =
      (s.requests.find? fun p => p.sequence = sequence ∧ p.InTime now,
        ⟨s.requests.eraseP fun p => p.sequence = sequence ∧ p.InTime now⟩) := by
  simp only [takeLive?, PendingRequest.isLive_eq_decide, Bool.decide_and, beq_eq_decide]

theorem requests_expire (s : PendingSet) (now : Instant) :
    (s.expire now).2.requests = s.requests.filter fun p => p.InTime now := by
  simp only [expire, PendingRequest.isLive_eq_decide]

theorem errors_expire (s : PendingSet) (now : Instant) :
    (s.expire now).1 = (s.requests.filter fun p => ¬ p.InTime now).map fun p =>
      .timeout p.sequence p.timeout := by
  simp only [expire, PendingRequest.isLive_eq_decide, decide_not]
  rfl

/-- The first of some requests that has the number and is in time is taken from among them; if there
is none, nothing is. -/
inductive Takes (sequence : UInt32) (now : Instant) :
    List PendingRequest → Option PendingRequest → List PendingRequest → Prop where
  /-- There is one. -/
  | found {before after : List PendingRequest} {p : PendingRequest}
    (hsequence : p.sequence = sequence) (htime : p.InTime now)
    (hfirst : ∀ q ∈ before, q.sequence = sequence → ¬ q.InTime now) :
    Takes sequence now (before ++ p :: after) (some p) (before ++ after)
  /-- There is none. -/
  | missed {requests : List PendingRequest}
    (hnone : ∀ q ∈ requests, q.sequence = sequence → ¬ q.InTime now) :
    Takes sequence now requests none requests

theorem takes_takeLive? (s : PendingSet) (sequence : UInt32) (now : Instant) :
    Takes sequence now s.requests (s.takeLive? sequence now).1
      (s.takeLive? sequence now).2.requests := by
  cases hp : (s.takeLive? sequence now).1 with
  | some p =>
    obtain ⟨hsequence, hlive, before, after, hsplit, hrest, hfirst⟩ := takeLive?_eq hp
    rw [hsplit, hrest]
    refine .found hsequence (PendingRequest.isLive_iff.mp hlive) fun q hq hs htime => ?_
    have hlate := hfirst q hq hs
    rw [PendingRequest.isLive_iff.mpr htime] at hlate
    cases hlate
  | none =>
    have hnone : ∀ q ∈ s.requests, ¬ (q.sequence == sequence && q.isLive now) = true :=
      List.find?_eq_none.mp hp
    have hrest : (s.takeLive? sequence now).2.requests = s.requests :=
      List.eraseP_of_forall_not hnone
    rw [hrest]
    refine .missed fun q hq hs htime => hnone q hq ?_
    rw [hs, beq_self_eq_true, Bool.true_and]
    exact PendingRequest.isLive_iff.mpr htime

/-- A reply takes the same request before the clock is looked at and after, and the same requests
are left. -/
theorem takeLive?_expire (s : PendingSet) (sequence : UInt32) (now : Instant) :
    (s.expire now).2.takeLive? sequence now =
      ((s.takeLive? sequence now).1, ((s.takeLive? sequence now).2.expire now).2) := by
  -- What a reply asks of a request includes what the clock asks.
  have hfind : ∀ p : PendingRequest, decide (p.isLive now = true ∧
      (p.sequence == sequence && p.isLive now) = true) =
        (p.sequence == sequence && p.isLive now) := by
    intro p
    rw [Bool.eq_iff_iff, decide_eq_true_iff, Bool.and_eq_true]
    exact ⟨fun h => h.2, fun h => ⟨h.2, h⟩⟩
  simp only [takeLive?, expire, List.find?_filter, List.eraseP_filter, hfind, Bool.and_assoc,
    Bool.and_self]

/-- To have looked at the clock before makes no difference. -/
theorem expire_expire {earlier later : Instant} (hle : earlier ≤ later) (s : PendingSet) :
    ((s.expire earlier).2.expire later).2 = (s.expire later).2 := by
  simp only [expire, List.filter_filter, PendingRequest.isLive_eq_decide]
  congr 1
  apply List.filter_congr
  intro p _
  rw [Bool.and_eq_left_iff_imp, decide_eq_true_iff, decide_eq_true_iff]
  exact fun h => h.of_le hle

/-! ## A ledger of the requests -/

/-- What is done to a set. -/
inductive Event where
  /-- A request is sent. -/
  | push (p : PendingRequest)
  /-- A reply comes. -/
  | take (sequence : UInt32) (now : Instant)
  /-- Somebody looks at the clock. -/
  | expire (now : Instant)
  /-- All is dropped. -/
  | clear
deriving DecidableEq

/-- The set after an event. -/
def step (s : PendingSet) : Event → PendingSet
  | .push p => s.push p
  | .take sequence now => (s.takeLive? sequence now).2
  | .expire now => (s.expire now).2
  | .clear => .empty

/-- The set after some events, the first of which finds it empty. -/
def after (events : List Event) : PendingSet := events.foldl step .empty

theorem after_concat (events : List Event) (e : Event) :
    after (events ++ [e]) = (after events).step e := by
  rw [after, List.foldl_append]
  rfl

/-- Requests that are pushed stand in the order of their pushes. -/
theorem requests_after_push (requests : List PendingRequest) :
    (after (requests.map .push)).requests = requests := by
  induction requests using List.reverseRecOn with
  | nil => rfl
  | append_singleton requests p ih =>
    rw [List.map_append, List.map_singleton, after_concat]
    show (after (requests.map .push)).requests ++ [p] = requests ++ [p]
    rw [ih]

end PendingSet

section Diff

variable {α : Type} [DecidableEq α]

/-- To take out the first element that there is of a kind is to take out that very element. -/
theorem diff_find? (l : List α) (q : α → Bool) : l.diff (l.find? q).toList = l.eraseP q := by
  cases hfound : l.find? q with
  | none => exact (List.eraseP_of_forall_not (List.find?_eq_none.mp hfound)).symm
  | some a =>
    obtain ⟨ha, before, after, rfl, hbefore⟩ := List.find?_eq_some_iff_append.mp hfound
    have hnot : ∀ b ∈ before, ¬ q b = true := fun b hb => by simpa using hbefore b hb
    have hfirst : a ∉ before := fun hmem => hnot a hmem ha
    rw [Option.toList_some, List.diff_cons, List.diff_nil, List.erase_append_right _ hfirst,
      List.erase_cons_head, List.eraseP_append_right _ hnot, List.eraseP_cons_of_pos ha]

/-- To take out all elements of a kind one by one leaves those of the other kind. -/
theorem diff_filter (l : List α) (q : α → Bool) :
    l.diff (l.filter q) = l.filter fun a => !q a := by
  induction l with
  | nil => exact List.nil_diff _
  | cons a l ih =>
    by_cases ha : q a = true
    · rw [List.filter_cons_of_pos ha, List.diff_cons, List.erase_cons_head, ih,
        List.filter_cons_of_neg (by simp [ha])]
    · have hnot : a ∉ l.filter q := fun hmem => ha (List.mem_filter.mp hmem).2
      rw [List.filter_cons_of_neg ha, List.cons_diff_of_not_mem hnot, ih,
        List.filter_cons_of_pos (by simp [ha])]

theorem diff_self (l : List α) : l.diff l = [] := by
  have hall := diff_filter l fun _ => true
  rwa [List.filter_true, Bool.not_true, List.filter_false] at hall

end Diff

/-- A request with the number of its push. -/
structure Entry where
  /-- How many requests were pushed before. -/
  number : Nat
  /-- The request. -/
  request : PendingRequest
deriving DecidableEq

/-- What has become of the requests that were pushed. -/
structure Ledger where
  /-- The requests, oldest first. -/
  pushed : List PendingRequest
  /-- Those that are in flight. -/
  waiting : List Entry
  /-- Those that have left, in the order in which they did. -/
  gone : List Entry
deriving DecidableEq

namespace Ledger

/-- A ledger without entries. -/
def blank : Ledger := ⟨[], [], []⟩

/-- Who leaves at an event. -/
def leaving (l : Ledger) : PendingSet.Event → List Entry
  | .push _ => []
  | .take sequence now =>
    (l.waiting.find? fun e => e.request.sequence = sequence ∧ e.request.InTime now).toList
  | .expire now => l.waiting.filter fun e => ¬ e.request.InTime now
  | .clear => l.waiting

/-- The ledger with an event entered. -/
def enter (l : Ledger) : PendingSet.Event → Ledger
  | .push p =>
    { l with pushed := l.pushed ++ [p], waiting := l.waiting ++ [⟨l.pushed.length, p⟩] }
  | e => { l with waiting := l.waiting.diff (l.leaving e), gone := l.gone ++ l.leaving e }

/-- The ledger of some events. -/
def after (events : List PendingSet.Event) : Ledger := events.foldl enter blank

theorem after_concat (events : List PendingSet.Event) (e : PendingSet.Event) :
    after (events ++ [e]) = (after events).enter e := by
  rw [after, List.foldl_append]
  rfl

/-- The ledger says of a set which of the requests that were pushed it holds, and that each of them
is there or has left, and has not left twice. -/
structure Accounts (l : Ledger) (s : PendingSet) : Prop where
  /-- Those that are in flight are the set. -/
  requests_eq : l.waiting.map Entry.request = s.requests
  /-- They stand in the order of their pushes. -/
  ordered : (l.waiting.map Entry.number).Pairwise (· < ·)
  /-- Each number is entered once. -/
  once : ((l.gone ++ l.waiting).map Entry.number).Perm (List.range l.pushed.length)
  /-- A number stands for the request of that push. -/
  request_eq : ∀ e ∈ l.gone ++ l.waiting, l.pushed[e.number]? = some e.request

section Accounts

variable {l : Ledger} {s : PendingSet}

theorem accounts_blank : blank.Accounts .empty := ⟨rfl, .nil, .refl _, nofun⟩

/-- No entry has the number of the next push. -/
theorem Accounts.number_lt (ha : l.Accounts s) {e : Entry} (he : e ∈ l.gone ++ l.waiting) :
    e.number < l.pushed.length :=
  List.mem_range.mp (ha.once.subset (List.mem_map_of_mem he))

theorem Accounts.push (ha : l.Accounts s) (p : PendingRequest) :
    (l.enter (.push p)).Accounts (s.push p) where
  requests_eq := by
    rw [enter, List.map_append, ha.requests_eq]
    rfl
  ordered := by
    rw [enter, List.map_append, List.pairwise_append]
    refine ⟨ha.ordered, List.pairwise_singleton _ _, fun n hn m hm => ?_⟩
    -- The new number is how many there were, and those that there were are below that.
    obtain ⟨e, he, rfl⟩ := List.mem_map.mp hn
    rw [List.map_singleton, List.mem_singleton] at hm
    rw [hm]
    exact ha.number_lt (List.mem_append_right _ he)
  once := by
    rw [enter, ← List.append_assoc, List.map_append, List.length_append, List.length_singleton,
      List.range_succ]
    exact ha.once.append_right _
  request_eq e he := by
    rw [enter, ← List.append_assoc, List.mem_append, List.mem_singleton] at he
    obtain he | rfl := he
    · rw [enter, List.getElem?_append_left (ha.number_lt he)]
      exact ha.request_eq e he
    · simp [enter]

theorem leaving_sublist (l : Ledger) (e : PendingSet.Event) : (l.leaving e).Sublist l.waiting := by
  cases e with
  | push p => exact List.nil_sublist _
  | take sequence now =>
    rw [leaving]
    cases hfound : l.waiting.find? fun e =>
        e.request.sequence = sequence ∧ e.request.InTime now with
    | none => exact List.nil_sublist _
    | some e => exact List.singleton_sublist.mpr (List.mem_of_find?_eq_some hfound)
  | expire now => exact List.filter_sublist
  | clear => exact .refl _

/-- Who leaves and who stays have all been in flight. -/
theorem leaving_append_diff_perm (l : Ledger) (e : PendingSet.Event) :
    (l.leaving e ++ l.waiting.diff (l.leaving e)).Perm l.waiting :=
  List.subperm_append_diff_self_of_count_le fun entry _ => (l.leaving_sublist e).count_le entry

/-- An event at which nothing is pushed keeps the account if those who stay are the set that it
leaves: the numbers only change their places. -/
theorem Accounts.depart (ha : l.Accounts s) {s' : PendingSet} {e : PendingSet.Event}
    (hs : (l.waiting.diff (l.leaving e)).map Entry.request = s'.requests) :
    Accounts
      { l with waiting := l.waiting.diff (l.leaving e), gone := l.gone ++ l.leaving e } s' := by
  have hperm :
      (l.gone ++ l.leaving e ++ l.waiting.diff (l.leaving e)).Perm (l.gone ++ l.waiting) := by
    rw [List.append_assoc]
    exact (l.leaving_append_diff_perm e).append_left l.gone
  exact {
    requests_eq := hs
    ordered := ha.ordered.sublist ((List.diff_sublist _ _).map Entry.number)
    once := (hperm.map Entry.number).trans ha.once
    request_eq := fun e he => ha.request_eq e (hperm.subset he) }

/-- Who leaves when a reply comes is who is taken. -/
theorem Accounts.leaving_take (ha : l.Accounts s) (sequence : UInt32) (now : Instant) :
    (l.leaving (.take sequence now)).map Entry.request = (s.takeLive? sequence now).1.toList := by
  rw [PendingSet.takeLive?_eq_find?, ← ha.requests_eq, List.find?_map, leaving, Option.toList_map]
  rfl

/-- Who leaves when somebody looks at the clock is who an error is given for. -/
theorem Accounts.leaving_expire (ha : l.Accounts s) (now : Instant) :
    (l.leaving (.expire now)).map (·.request.error) = (s.expire now).1 := by
  rw [PendingSet.errors_expire, ← ha.requests_eq, List.filter_map, List.map_map, leaving]
  rfl

/-- An event keeps the account. -/
theorem Accounts.enter (ha : l.Accounts s) (e : PendingSet.Event) :
    (l.enter e).Accounts (s.step e) := by
  cases e with
  | push p => exact ha.push p
  | take sequence now =>
    apply ha.depart
    rw [leaving, diff_find?, PendingSet.step, PendingSet.takeLive?_eq_find?, ← ha.requests_eq,
      List.eraseP_map]
    rfl
  | expire now =>
    apply ha.depart
    rw [leaving, diff_filter, PendingSet.step, PendingSet.requests_expire, ← ha.requests_eq,
      List.filter_map]
    simp only [Bool.not_not, decide_not]
    rfl
  | clear =>
    apply ha.depart
    rw [leaving, diff_self]
    rfl

/-- So does a run. -/
theorem accounts_after (events : List PendingSet.Event) :
    (after events).Accounts (PendingSet.after events) := by
  induction events using List.reverseRecOn with
  | nil => exact accounts_blank
  | append_singleton events e ih =>
    rw [after_concat, PendingSet.after_concat]
    exact ih.enter e

end Accounts

end Ledger

namespace PendingSet

/-- Of the requests that have been pushed, a reply takes the first that has its number and is in
time, and the clock takes all that are not in time. The others keep their places. Which of the two
comes first makes no difference, nor does it that somebody has looked at the clock before. In every
run, each push is entered in the ledger once, with those in flight or with those that have left; so
it leaves at most once, and who leaves is who is taken or who an error is given for. -/
theorem each_leaves_once (requests : List PendingRequest) :
    let s := after (requests.map .push)
    (∀ sequence now, Takes sequence now requests (s.takeLive? sequence now).1
        (s.takeLive? sequence now).2.requests) ∧
      (∀ now, (s.expire now).2.requests = requests.filter (fun p => p.InTime now) ∧
        (s.expire now).1 = (requests.filter fun p => ¬ p.InTime now).map fun p =>
          .timeout p.sequence p.timeout) ∧
      (∀ sequence now, (s.expire now).2.takeLive? sequence now =
        ((s.takeLive? sequence now).1, ((s.takeLive? sequence now).2.expire now).2)) ∧
      (∀ earlier later, earlier ≤ later →
        ((s.expire earlier).2.expire later).2 = (s.expire later).2) ∧
      ∀ events, (Ledger.after events).Accounts (after events) ∧
        ((Ledger.after events).gone.map Entry.number).Nodup ∧
        (∀ sequence now, ((Ledger.after events).leaving (.take sequence now)).map Entry.request =
          ((after events).takeLive? sequence now).1.toList) ∧
        ∀ now, ((Ledger.after events).leaving (.expire now)).map (·.request.error) =
          ((after events).expire now).1 := by
  intro s
  have hs : s.requests = requests := requests_after_push requests
  refine ⟨fun sequence now => ?_, fun now => ⟨?_, ?_⟩, s.takeLive?_expire,
    fun earlier later hle => expire_expire hle s, fun events => ?_⟩
  · rw [← hs]
    exact takes_takeLive? s sequence now
  · rw [requests_expire, hs]
  · rw [errors_expire, hs]
  · have ha := Ledger.accounts_after events
    refine ⟨ha, ?_, ha.leaving_take, ha.leaving_expire⟩
    have hnodup := ha.once.nodup_iff.mpr List.nodup_range
    rw [List.map_append] at hnodup
    exact hnodup.of_append_left

/-- Two requests that are equal, one whose time is up at 4, and one that is sent only after that. -/
def equalRequests : List PendingRequest := [⟨7, 0, 3⟩, ⟨7, 2, 3⟩, ⟨8, 9, 1⟩, ⟨7, 2, 3⟩]

/-- They leave in every way, and one of them is pushed once more. -/
def equalEvents : List Event :=
  equalRequests.map .push ++ [.take 7 4, .expire 4, .take 7 1, .push ⟨7, 2, 3⟩, .clear]

theorem each_leaves_once_equalRequests :
    ((after (equalRequests.map .push)).takeLive? 7 4).1 = some ⟨7, 2, 3⟩ ∧
      (3 ≤ 4 ∧ (((after (equalRequests.map .push)).expire 3).2.expire 4).2 =
        ((after (equalRequests.map .push)).expire 4).2) ∧
      (Ledger.after equalEvents).gone.map Entry.number = [1, 0, 3, 2, 4] ∧
      ((Ledger.after equalEvents).gone.map Entry.number).Nodup := by
  obtain ⟨-, -, -, htwice, hrun⟩ := each_leaves_once equalRequests
  exact ⟨by decide, ⟨by decide, htwice 3 4 (by decide)⟩, by decide, (hrun equalEvents).2.1⟩

end PendingSet

end SignedControl

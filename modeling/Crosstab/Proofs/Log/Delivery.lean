import Crosstab.Log.Channel
import Crosstab.Proofs.Lookup

/-!
# What receivers of a channel get

Whatever is done with a channel, a receiver can account for every entry sent since it subscribed:
it has got the entry, or it has been told that the entry is lost, or the entry is still pending.

    entries sent since ──replay of the answers──▶ entries that are pending

`receivers_account` says so for every sequence of steps. It also says which answer a receiver gets
when, and that neither the other receivers nor the echo have a part in it.
-/

namespace Crosstab.Log

/-! ## Steps -/

/-- What can be done with a channel. -/
inductive Step where
  | subscribe (receiver : String)
  | unsubscribe (receiver : String)
  | setEcho (echo : Bool)
  | log (entry : Entry)
  | receive (receiver : String)

/-- The step is one of the receiver itself, or sends an entry. -/
def Step.concerns (receiver : String) : Step → Bool
  | .subscribe other => other == receiver
  | .unsubscribe other => other == receiver
  | .setEcho _ => false
  | .log _ => true
  | .receive other => other == receiver

namespace Channel

def perform (channel : Channel) : Step → Channel
  | .subscribe receiver => channel.subscribe receiver
  | .unsubscribe receiver => channel.unsubscribe receiver
  | .setEcho echo => channel.setEcho echo
  | .log entry => channel.send entry
  | .receive receiver => (channel.receive receiver).2

/-- A channel with which some steps have been done. -/
def run (steps : List Step) : Channel := steps.foldl perform fresh

/-- The entries that a receiver has not come to yet, also those that it will not find any more. -/
def pending (channel : Channel) (receiver : String) : List Entry :=
  match channel.place? receiver with
  | some place => channel.sent.toList.drop place
  | none => []

/-- What a step answers to a receiver. -/
def answer (channel : Channel) (receiver : String) : Step → List Received
  | .receive other => if other = receiver then [(channel.receive other).1] else []
  | _ => []

/-- What steps answer to a receiver, in order. -/
def answers (receiver : String) : Channel → List Step → List Received
  | _, [] => []
  | channel, step :: steps =>
    channel.answer receiver step ++ answers receiver (channel.perform step) steps

end Channel

/-! ## Places -/

namespace Channel

section Places

variable {channel : Channel} {receiver other : String}

@[simp] theorem place?_setPlace_self (channel : Channel) (receiver : String) (place : Nat) :
    (channel.setPlace receiver place).place? receiver = some place := by
  simp [place?, setPlace]

theorem place?_setPlace_of_ne (h : receiver ≠ other) (place : Nat) :
    (channel.setPlace other place).place? receiver = channel.place? receiver := by
  have hmiss : (receiver == other) = false := beq_eq_false_iff_ne.2 h
  simp [place?, setPlace, List.lookup_cons, hmiss, lookup_filter_of_ne _ h]

@[simp] theorem place?_unsubscribe_self (channel : Channel) (receiver : String) :
    (channel.unsubscribe receiver).place? receiver = none :=
  lookup_filter_self channel.places receiver

theorem place?_unsubscribe_of_ne (h : receiver ≠ other) :
    (channel.unsubscribe other).place? receiver = channel.place? receiver :=
  lookup_filter_of_ne channel.places h

theorem pending_of_place {place : Nat} (h : channel.place? receiver = some place) :
    channel.pending receiver = channel.sent.toList.drop place := by
  rw [pending, h]

theorem pending_setPlace (channel : Channel) (receiver : String) (place : Nat) :
    (channel.setPlace receiver place).pending receiver = channel.sent.toList.drop place :=
  pending_of_place (place?_setPlace_self channel receiver place)

/-- Taking an entry moves nobody else. -/
theorem place?_receive_of_ne (h : receiver ≠ other) :
    (channel.receive other).2.place? receiver = channel.place? receiver := by
  unfold receive
  split
  · rfl
  · split
    · exact place?_setPlace_of_ne h _
    · split
      · exact place?_setPlace_of_ne h _
      · rfl

theorem sent_receive (channel : Channel) (receiver : String) :
    (channel.receive receiver).2.sent = channel.sent := by
  unfold receive
  split
  · rfl
  · split
    · rfl
    · split <;> rfl

end Places

end Channel

/-! ## One answer -/

/-- An answer to a receiver with some entries pending, and the entries that are pending behind it:
the next one is taken, or the oldest are lost and as many are left as a channel keeps. -/
inductive Receives : List Entry → Received → List Entry → Prop where
  | empty : Receives [] .empty []
  | entry {entry rest} (h : (entry :: rest).length ≤ Channel.capacity) :
    Receives (entry :: rest) (.entry entry) rest
  | lagged {pending} (h : Channel.capacity < pending.length) :
    Receives pending (.lagged (pending.length - Channel.capacity))
      (pending.drop (pending.length - Channel.capacity))

theorem receives (channel : Channel) (receiver : String) :
    Receives (channel.pending receiver) (channel.receive receiver).1
      ((channel.receive receiver).2.pending receiver) := by
  unfold Channel.receive
  rcases hplace : channel.place? receiver with _ | place
  · have hpending : channel.pending receiver = [] := by rw [Channel.pending, hplace]
    dsimp only
    rw [hpending]
    exact .empty
  have hpending := Channel.pending_of_place hplace
  have hlength : (channel.sent.toList.drop place).length = channel.sent.size - place := by simp
  dsimp only
  split
  · next hbehind =>
    -- the receiver is put to the oldest entry that is kept
    have hlost : channel.sent.size - Channel.capacity - place =
        (channel.sent.toList.drop place).length - Channel.capacity := by omega
    have hplaces : place + (channel.sent.size - Channel.capacity - place) =
        channel.sent.size - Channel.capacity := by omega
    have hkept : channel.sent.toList.drop (channel.sent.size - Channel.capacity) =
        (channel.sent.toList.drop place).drop
          ((channel.sent.toList.drop place).length - Channel.capacity) := by
      rw [List.drop_drop, ← hlost, hplaces]
    rw [hpending, Channel.pending_setPlace, hlost, hkept]
    apply Receives.lagged
    omega
  · next hkept =>
    split
    · next entry hentry =>
      rw [hpending, Channel.pending_setPlace]
      have hsplit : channel.sent.toList.drop place =
          entry :: channel.sent.toList.drop (place + 1) := by
        rw [← Array.getElem?_toList, List.getElem?_eq_some_iff] at hentry
        obtain ⟨hlt, rfl⟩ := hentry
        exact List.drop_eq_getElem_cons hlt
      -- no more than the capacity are pending, or the receiver would have been behind
      rw [hsplit] at hlength ⊢
      apply Receives.entry
      omega
    · next hnone =>
      have hnothing : channel.sent.toList.drop place = [] := by
        rw [List.drop_eq_nil_iff, Array.length_toList]
        simpa using hnone
      rw [hpending, hnothing]
      exact .empty

theorem eq_empty_iff_of_receives {pending after : List Entry} {received : Received}
    (h : Receives pending received after) : received = .empty ↔ pending = [] := by
  cases h with
  | empty => simp
  | entry => simp
  | lagged hmany =>
    refine ⟨nofun, ?_⟩
    rintro rfl
    exact absurd hmany (Nat.not_lt_zero _)

theorem eq_lagged_iff_of_receives {pending after : List Entry} {received : Received}
    (h : Receives pending received after) (count : Nat) : received = .lagged count ↔
      Channel.capacity < pending.length ∧ count = pending.length - Channel.capacity := by
  cases h with
  | empty => simp
  | entry hfew =>
    refine ⟨nofun, ?_⟩
    rintro ⟨hmany, -⟩
    omega
  | lagged hmany => simp [hmany, eq_comm]

/-! ## Replays -/

/-- Reads answers against the entries that were sent: an entry has to be the next one, and a loss
is one of so many entries in a row. What is left has not been answered yet. -/
def replay : List Received → List Entry → Option (List Entry)
  | [], sent => some sent
  | .entry entry :: answers, next :: sent => if entry = next then replay answers sent else none
  | .entry _ :: _, [] => none
  | .lagged count :: answers, sent =>
    if count ≤ sent.length then replay answers (sent.drop count) else none
  | .empty :: answers, sent => replay answers sent

theorem replay_append (answers more : List Received) (sent : List Entry) :
    replay (answers ++ more) sent = (replay answers sent).bind (replay more) := by
  induction answers, sent using replay.induct with
  | case1 sent => rfl
  | case2 answers next sent ih => simp [replay, ih]
  | case3 entry answers next sent hne => simp [replay, hne]
  | case4 entry answers => rfl
  | case5 count answers sent hle ih => simp [replay, hle, ih]
  | case6 count answers sent hle => simp [replay, hle]
  | case7 answers sent ih => exact ih

/-- What is sent later is left behind everything else. -/
theorem replay_sent {answers : List Received} {sent pending : List Entry}
    (h : replay answers sent = some pending) (entry : Entry) :
    replay answers (sent ++ [entry]) = some (pending ++ [entry]) := by
  induction answers, sent using replay.induct with
  | case1 sent =>
    cases h
    rfl
  | case2 answers next sent ih =>
    rw [replay, if_pos rfl] at h
    rw [List.cons_append, replay, if_pos rfl]
    exact ih h
  | case3 taken answers next sent hne =>
    rw [replay, if_neg hne] at h
    cases h
  | case4 taken answers => cases h
  | case5 count answers sent hle ih =>
    rw [replay, if_pos hle] at h
    have hmore : count ≤ (sent ++ [entry]).length := by
      rw [List.length_append]
      omega
    rw [replay, if_pos hmore, List.drop_append_of_le_length hle]
    exact ih h
  | case6 count answers sent hle =>
    rw [replay, if_neg hle] at h
    cases h
  | case7 answers sent ih => exact ih h

theorem replay_received {answers : List Received} {sent pending after : List Entry}
    {received : Received} (h : replay answers sent = some pending)
    (hreceives : Receives pending received after) :
    replay (answers ++ [received]) sent = some after := by
  rw [replay_append, h, Option.bind_some]
  cases hreceives with
  | empty => rfl
  | entry => simp [replay]
  | lagged => simp [replay]

/-! ## What receivers hear -/

/-- What has happened since a receiver subscribed: the entries sent, and the answers it got. -/
structure Hearing where
  sent : List Entry
  answers : List Received

/-- What a receiver has heard behind one more step; none if it does not listen. -/
def listen (receiver : String) (channel : Channel) (hearing : Option Hearing) (step : Step) :
    Option Hearing :=
  match step with
  | .subscribe other => if other = receiver then some ⟨[], []⟩ else hearing
  | .unsubscribe other => if other = receiver then none else hearing
  | .log entry => hearing.map fun heard => { heard with sent := heard.sent ++ [entry] }
  | step => hearing.map fun heard =>
    { heard with answers := heard.answers ++ channel.answer receiver step }

def hearAlong (receiver : String) : Channel → Option Hearing → List Step → Option Hearing
  | _, hearing, [] => hearing
  | channel, hearing, step :: steps =>
    hearAlong receiver (channel.perform step) (listen receiver channel hearing step) steps

/-- What a receiver has heard since it subscribed the last time. -/
def heard (receiver : String) (steps : List Step) : Option Hearing :=
  hearAlong receiver .fresh none steps

/-- The answers account for the entries sent but for those that are pending; who does not listen
has no place in the channel. -/
def Tracks (channel : Channel) (receiver : String) : Option Hearing → Prop
  | some heard => (∃ place ≤ channel.sent.size, channel.place? receiver = some place) ∧
      replay heard.answers heard.sent = some (channel.pending receiver)
  | none => channel.place? receiver = none

section Tracks

variable {channel after : Channel} {receiver : String} {hearing : Option Hearing}

theorem Tracks.congr (h : Tracks channel receiver hearing) (hsent : after.sent = channel.sent)
    (hplace : after.place? receiver = channel.place? receiver) :
    Tracks after receiver hearing := by
  cases hearing with
  | none => exact hplace.trans h
  | some heard =>
    obtain ⟨⟨place, hle, hknown⟩, hreplay⟩ := h
    refine ⟨⟨place, by rwa [hsent], hplace.trans hknown⟩, ?_⟩
    rw [hreplay, Channel.pending, Channel.pending, hplace, hsent]

theorem tracks_subscribe (channel : Channel) (receiver : String) :
    Tracks (channel.subscribe receiver) receiver (some ⟨[], []⟩) := by
  refine ⟨⟨channel.sent.size, Nat.le_refl _, Channel.place?_setPlace_self ..⟩, ?_⟩
  rw [Channel.subscribe, Channel.pending_setPlace, ← Array.length_toList, List.drop_length]
  rfl

theorem Tracks.send (h : Tracks channel receiver hearing) (entry : Entry) :
    Tracks (channel.send entry) receiver
      (hearing.map fun heard => { heard with sent := heard.sent ++ [entry] }) := by
  cases hearing with
  | none => exact h
  | some heard =>
    obtain ⟨⟨place, hle, hplace⟩, hreplay⟩ := h
    have hsent : (channel.send entry).pending receiver = channel.pending receiver ++ [entry] := by
      have hplace' : (channel.send entry).place? receiver = some place := hplace
      rw [Channel.pending_of_place hplace, Channel.pending_of_place hplace', Channel.send,
        Array.toList_push, List.drop_append_of_le_length (by simpa using hle)]
    refine ⟨⟨place, ?_, hplace⟩, ?_⟩
    · rw [Channel.send, Array.size_push]
      omega
    · rw [hsent]
      exact replay_sent hreplay entry

theorem exists_place_receive {place : Nat} (hplace : channel.place? receiver = some place)
    (hle : place ≤ channel.sent.size) : ∃ next ≤ channel.sent.size,
      (channel.receive receiver).2.place? receiver = some next := by
  unfold Channel.receive
  rw [hplace]
  dsimp only
  split
  · exact ⟨_, Nat.sub_le _ _, Channel.place?_setPlace_self ..⟩
  · split
    · next entry hentry =>
      obtain ⟨hlt, -⟩ := Array.getElem?_eq_some_iff.1 hentry
      exact ⟨place + 1, hlt, Channel.place?_setPlace_self ..⟩
    · exact ⟨place, hle, hplace⟩

theorem Tracks.receive (h : Tracks channel receiver hearing) :
    Tracks (channel.receive receiver).2 receiver (hearing.map fun heard =>
      { heard with answers := heard.answers ++ [(channel.receive receiver).1] }) := by
  cases hearing with
  | none =>
    show (channel.receive receiver).2.place? receiver = none
    have hnone : channel.place? receiver = none := h
    rw [Channel.receive, hnone]
    exact hnone
  | some heard =>
    obtain ⟨⟨place, hle, hplace⟩, hreplay⟩ := h
    refine ⟨?_, replay_received hreplay (receives channel receiver)⟩
    rw [Channel.sent_receive]
    exact exists_place_receive hplace hle

/-- One step keeps the account. -/
theorem Tracks.step (h : Tracks channel receiver hearing) (step : Step) :
    Tracks (channel.perform step) receiver (listen receiver channel hearing step) := by
  cases step with
  | subscribe other =>
    unfold listen
    dsimp only
    split
    · next hself =>
      subst hself
      exact tracks_subscribe channel other
    · next hother => exact h.congr rfl (Channel.place?_setPlace_of_ne (Ne.symm hother) _)
  | unsubscribe other =>
    unfold listen
    dsimp only
    split
    · next hself =>
      subst hself
      exact Channel.place?_unsubscribe_self channel other
    · next hother => exact h.congr rfl (Channel.place?_unsubscribe_of_ne (Ne.symm hother))
  | setEcho echo =>
    -- nothing is answered, so there is nothing more to account for
    unfold listen Channel.answer
    simp only [List.append_nil]
    exact Option.map_id'.symm ▸ h.congr rfl rfl
  | log entry => exact h.send entry
  | receive other =>
    unfold listen Channel.answer
    by_cases hself : other = receiver
    · subst hself
      simp only [if_true]
      exact h.receive
    · simp only [hself, if_false, List.append_nil]
      exact Option.map_id'.symm ▸
        h.congr (Channel.sent_receive ..) (Channel.place?_receive_of_ne (Ne.symm hself))

/-- Steps keep the account. -/
theorem Tracks.steps (h : Tracks channel receiver hearing) (steps : List Step) :
    Tracks (steps.foldl Channel.perform channel) receiver
      (hearAlong receiver channel hearing steps) := by
  induction steps generalizing channel hearing with
  | nil => exact h
  | cons step steps ih => exact ih (h.step step)

end Tracks

/-! ## Receivers among others -/

section Alike

variable {channel other : Channel} {receiver : String}

/-- Two channels are the same to a receiver. -/
structure Alike (receiver : String) (channel other : Channel) : Prop where
  sent : channel.sent = other.sent
  place : channel.place? receiver = other.place? receiver

theorem Alike.receive (h : Alike receiver channel other) :
    (channel.receive receiver).1 = (other.receive receiver).1 ∧
      Alike receiver (channel.receive receiver).2 (other.receive receiver).2 := by
  unfold Channel.receive
  rw [h.sent, h.place]
  rcases hplace : other.place? receiver with _ | place
  · exact ⟨rfl, h⟩
  dsimp only
  split
  · exact ⟨rfl, h.sent, by simp⟩
  · split
    · exact ⟨rfl, h.sent, by simp⟩
    · exact ⟨rfl, h⟩

theorem Alike.step (h : Alike receiver channel other) {step : Step}
    (hstep : step.concerns receiver = true) :
    channel.answer receiver step = other.answer receiver step ∧
      Alike receiver (channel.perform step) (other.perform step) := by
  cases step with
  | subscribe name =>
    obtain rfl : name = receiver := by simpa [Step.concerns] using hstep
    refine ⟨rfl, h.sent, ?_⟩
    simp [Channel.perform, Channel.subscribe, h.sent]
  | unsubscribe name =>
    obtain rfl : name = receiver := by simpa [Step.concerns] using hstep
    refine ⟨rfl, h.sent, ?_⟩
    simp [Channel.perform]
  | setEcho echo => cases hstep
  | log entry => exact ⟨rfl, congrArg (Array.push · entry) h.sent, h.place⟩
  | receive name =>
    obtain rfl : name = receiver := by simpa [Step.concerns] using hstep
    obtain ⟨hsame, halike⟩ := h.receive
    exact ⟨by simp [Channel.answer, hsame], halike⟩

/-- A step of somebody else changes nothing for a receiver. -/
theorem Alike.skip (h : Alike receiver channel other) {step : Step}
    (hstep : step.concerns receiver = false) :
    channel.answer receiver step = [] ∧ Alike receiver (channel.perform step) other := by
  cases step with
  | subscribe name =>
    have hname : name ≠ receiver := by simpa [Step.concerns] using hstep
    exact ⟨rfl, h.sent, (Channel.place?_setPlace_of_ne hname.symm _).trans h.place⟩
  | unsubscribe name =>
    have hname : name ≠ receiver := by simpa [Step.concerns] using hstep
    exact ⟨rfl, h.sent, (Channel.place?_unsubscribe_of_ne hname.symm).trans h.place⟩
  | setEcho echo => exact ⟨rfl, h.sent, h.place⟩
  | log entry => cases hstep
  | receive name =>
    have hname : name ≠ receiver := by simpa [Step.concerns] using hstep
    refine ⟨by simp [Channel.answer, hname], ?_, ?_⟩
    · exact (Channel.sent_receive channel name).trans h.sent
    · exact (Channel.place?_receive_of_ne hname.symm).trans h.place

/-- A receiver gets the same answers without the steps of the others. -/
theorem Alike.answers_eq (h : Alike receiver channel other) (steps : List Step) :
    Channel.answers receiver other (steps.filter (·.concerns receiver)) =
      Channel.answers receiver channel steps := by
  induction steps generalizing channel other with
  | nil => rfl
  | cons step steps ih =>
    cases hstep : step.concerns receiver with
    | true =>
      obtain ⟨hanswer, halike⟩ := h.step hstep
      rw [List.filter_cons_of_pos hstep, Channel.answers, Channel.answers, hanswer, ih halike]
    | false =>
      obtain ⟨hanswer, halike⟩ := h.skip hstep
      rw [List.filter_cons_of_neg (by simp [hstep]), Channel.answers, hanswer, List.nil_append,
        ih halike]

end Alike

/-! ## All steps -/

/-- What is to hold of a receiver of a channel with which some steps have been done. -/
structure HearsAll (steps : List Step) (receiver : String) : Prop where
  /-- Every entry sent since it subscribed is one that it got, one that it knows it has lost, or
  one that is pending, in the order of the log. -/
  accounts : match heard receiver steps with
    | some hearing => replay hearing.answers hearing.sent =
        some ((Channel.run steps).pending receiver)
    | none => (Channel.run steps).place? receiver = none
  /-- The next answer takes the next entry, or skips to the newest ones that are kept. -/
  receives : Receives ((Channel.run steps).pending receiver)
    ((Channel.run steps).receive receiver).1
    (((Channel.run steps).receive receiver).2.pending receiver)
  lagged_iff : ∀ count, ((Channel.run steps).receive receiver).1 = .lagged count ↔
    Channel.capacity < ((Channel.run steps).pending receiver).length ∧
      count = ((Channel.run steps).pending receiver).length - Channel.capacity
  empty_iff : ((Channel.run steps).receive receiver).1 = .empty ↔
    (Channel.run steps).pending receiver = []
  /-- Neither the other receivers nor the echo change an answer. -/
  alone : Channel.answers receiver .fresh (steps.filter (·.concerns receiver)) =
    Channel.answers receiver .fresh steps

/-- Every receiver can account for all entries sent since it subscribed, is told of a loss exactly
if more is pending than a channel keeps, and hears the same whoever else listens. -/
theorem receivers_account (steps : List Step) (receiver : String) : HearsAll steps receiver := by
  have hfresh : Tracks .fresh receiver none := rfl
  have htracks : Tracks (Channel.run steps) receiver (heard receiver steps) := hfresh.steps steps
  have hreceives := receives (Channel.run steps) receiver
  refine ⟨?_, hreceives, eq_lagged_iff_of_receives hreceives, eq_empty_iff_of_receives hreceives,
    Alike.answers_eq ⟨rfl, rfl⟩ steps⟩
  rcases hheard : heard receiver steps with _ | hearing
  · rwa [hheard] at htracks
  · rw [hheard] at htracks
    exact htracks.2

end Crosstab.Log

import AudioHost.Limits

/-!
# Channels

A first-in first-out queue with a fixed number of slots. A sender that finds no
free slot has to wait.
-/

set_option autoImplicit false

namespace AudioHost

/-- The messages in a channel, the oldest first. -/
structure Channel (Message : Type) where
  queued : List Message
  within : queued.length ≤ Limits.channelSlots
  deriving DecidableEq

namespace Channel

variable {Message : Type}

/-- The channel without messages. -/
def empty : Channel Message := ⟨[], by simp⟩

/-- Puts a message behind all others, if a slot is free. -/
def send? (channel : Channel Message) (message : Message) : Option (Channel Message) :=
  if room : channel.queued.length < Limits.channelSlots then
    some ⟨channel.queued ++ [message], by simpa [Nat.succ_le_iff] using room⟩
  else none

/-- Takes the oldest message. -/
def receive? (channel : Channel Message) : Option (Message × Channel Message) :=
  match channel with
  | ⟨[], _⟩ => none
  | ⟨oldest :: rest, within⟩ => some (oldest, ⟨rest, Nat.le_of_succ_le within⟩)

theorem queued_of_send?_eq_some {channel longer : Channel Message} {message : Message}
    (sent : channel.send? message = some longer) :
    longer.queued = channel.queued ++ [message] := by
  unfold send? at sent
  split at sent
  · cases sent
    rfl
  · cases sent

theorem send?_eq_none_iff {channel : Channel Message} {message : Message} :
    channel.send? message = none ↔ channel.queued.length = Limits.channelSlots := by
  have within := channel.within
  unfold send?
  split <;> simp <;> omega

theorem queued_of_receive?_eq_some {channel shorter : Channel Message} {message : Message}
    (received : channel.receive? = some (message, shorter)) :
    channel.queued = message :: shorter.queued := by
  rcases channel with ⟨_ | ⟨oldest, rest⟩, within⟩
  · cases received
  · cases received
    rfl

theorem receive?_eq_none_iff {channel : Channel Message} :
    channel.receive? = none ↔ channel.queued = [] := by
  rcases channel with ⟨_ | ⟨oldest, rest⟩, within⟩ <;> simp [receive?]

/-- An empty channel takes any message, and is empty again when it is taken out. -/
theorem exists_send?_of_empty {channel : Channel Message} (empty : channel.queued = [])
    (message : Message) :
    ∃ longer, channel.send? message = some longer ∧
      longer.receive? = some (message, channel) := by
  obtain ⟨queued, within⟩ := channel
  obtain rfl : queued = [] := empty
  have room : ([] : List Message).length < Limits.channelSlots := Nat.zero_lt_succ 7
  exact ⟨_, dif_pos room, rfl⟩

end Channel

end AudioHost

import Mathlib.Data.List.Basic

/-!
# Transfers that end with a short packet

A pipe carries transfers in packets of a bounded size, and says nothing about
where a message ends: the receiver goes on until a packet is not full.  A
message whose last packet is full needs an empty transfer after it, and any
other message needs none.
-/

namespace Foundation
namespace ShortPackets

variable {alpha : Type}

def packets (size : Nat) (data : List alpha) : List (List alpha) :=
  if size = 0 ∨ data.length <= size then
    [data]
  else
    data.take size :: packets size (data.drop size)
termination_by data.length
decreasing_by
  rename_i h
  rw [List.length_drop]
  omega

structure Receiver (alpha : Type) where
  messages : List (List alpha) := []
  held : List alpha := []
deriving DecidableEq, Repr

def receive (size : Nat) (r : Receiver alpha) (packet : List alpha) :
    Receiver alpha :=
  if packet.length < size then
    { messages := r.messages ++ [r.held ++ packet] }
  else
    { r with held := r.held ++ packet }

def receiveAll (size : Nat) (r : Receiver alpha)
    (transfers : List (List alpha)) : Receiver alpha :=
  (transfers.flatMap (packets size)).foldl (receive size) r

theorem receiveAll_append (size : Nat) (r : Receiver alpha)
    (first later : List (List alpha)) :
    receiveAll size r (first ++ later) =
      receiveAll size (receiveAll size r first) later := by
  unfold receiveAll
  rw [List.flatMap_append, List.foldl_append]

theorem receiveAll_singleton (size : Nat) (r : Receiver alpha)
    (data : List alpha) :
    receiveAll size r [data] = (packets size data).foldl (receive size) r := by
  unfold receiveAll
  rw [List.flatMap_singleton]

theorem receiveAll_transfer {size : Nat} (hsize : 0 < size) (r : Receiver alpha)
    {data : List alpha} (hdata : data ≠ []) :
    receiveAll size r [data] =
      if size ∣ data.length then { r with held := r.held ++ data }
      else { messages := r.messages ++ [r.held ++ data] } := by
  rw [receiveAll_singleton]
  fun_induction packets size data generalizing r with
  | case1 data hshort =>
      have hle : data.length <= size :=
        hshort.resolve_left (Nat.ne_of_gt hsize)
      rw [List.foldl_cons, List.foldl_nil, receive]
      by_cases hfull : data.length = size
      · rw [if_neg (Nat.not_lt.mpr (Nat.le_of_eq hfull.symm)),
          if_pos (hfull ▸ Nat.dvd_refl size)]
      · have hlt : data.length < size := Nat.lt_of_le_of_ne hle hfull
        have hpos : 0 < data.length := List.length_pos_of_ne_nil hdata
        rw [if_pos hlt, if_neg (Nat.not_dvd_of_pos_of_lt hpos hlt)]
  | case2 data hlong ih =>
      rcases not_or.mp hlong with ⟨_, hlong⟩
      have hle : size <= data.length := Nat.le_of_lt (Nat.lt_of_not_le hlong)
      have hrest : data.drop size ≠ [] := by
        intro hnil
        exact hlong (List.drop_eq_nil_iff.mp hnil)
      have hfirst : receive size r (data.take size) =
          { r with held := r.held ++ data.take size } := by
        rw [receive, if_neg]
        rw [List.length_take, Nat.min_eq_left hle]
        exact Nat.lt_irrefl size
      have hdvd : size ∣ (data.drop size).length <-> size ∣ data.length := by
        rw [List.length_drop]
        exact Nat.dvd_sub_iff_left hle (Nat.dvd_refl size)
      rw [List.foldl_cons, hfirst, ih _ hrest]
      simp only [hdvd, List.append_assoc, List.take_append_drop]

theorem receiveAll_empty {size : Nat} (hsize : 0 < size) (r : Receiver alpha) :
    receiveAll size r [[]] = { messages := r.messages ++ [r.held] } := by
  have hone : packets size ([] : List alpha) = [[]] := by
    rw [packets]
    exact if_pos (Or.inr (Nat.zero_le size))
  have hshort : ([] : List alpha).length < size := hsize
  rw [receiveAll_singleton, hone, List.foldl_cons, List.foldl_nil, receive,
    if_pos hshort, List.append_nil]

def marked (data : List alpha) (empty : Bool) : List (List alpha) :=
  if empty then [data, []] else [data]

/--
A receiver that holds nothing takes just the message, and holds nothing after
it, exactly if an empty transfer follows where the last packet is full.
-/
theorem receiveAll_marked_iff {size : Nat} (hsize : 0 < size)
    (messages : List (List alpha)) {data : List alpha} (hdata : data ≠ [])
    (empty : Bool) :
    receiveAll size { messages := messages } (marked data empty) =
        { messages := messages ++ [data] } <->
      (size ∣ data.length <-> empty = true) := by
  have hone := receiveAll_transfer hsize { messages := messages } hdata
  cases empty with
  | false =>
      rw [marked, if_neg Bool.false_ne_true, hone]
      by_cases hfull : size ∣ data.length
      · rw [if_pos hfull]
        simp [hfull]
      · rw [if_neg hfull]
        simp [hfull]
  | true =>
      have hsplit : marked data true = [data] ++ [[]] := rfl
      rw [hsplit, receiveAll_append, hone, receiveAll_empty hsize]
      by_cases hfull : size ∣ data.length
      · rw [if_pos hfull]
        simp [hfull]
      · rw [if_neg hfull]
        simp [hfull]

end ShortPackets
end Foundation

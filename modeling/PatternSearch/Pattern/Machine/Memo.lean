/-! # A memory of limited size

States that were added before are found again by a key. Each key has one slot, and a newer key
takes the slot from an older one, which is then forgotten. -/
namespace PatternSearch.Pattern.Machine

structure Memo where
  slots : Array (List Nat × Nat)

namespace Memo

/-- No key is empty, so that empty slots are told by theirs. -/
def ofSize (size : Nat) : Memo := ⟨.replicate size ([], 0)⟩

/-- The hash FNV-1a, on words of 64 bits. -/
def hash (key : List Nat) : UInt64 :=
  key.foldl (fun h word => (h ^^^ word.toUInt64) * 0x100000001B3) 0xCBF29CE484222325

def slotOf (memo : Memo) (key : List Nat) : Nat := (hash key).toNat % memo.slots.size

def get? (memo : Memo) (key : List Nat) : Option Nat :=
  match memo.slots[memo.slotOf key]? with
  | some (stored, state) => if stored = key then some state else none
  | none => none

def insert (memo : Memo) (key : List Nat) (state : Nat) : Memo :=
  ⟨memo.slots.setIfInBounds (memo.slotOf key) (key, state)⟩

end Memo

end PatternSearch.Pattern.Machine

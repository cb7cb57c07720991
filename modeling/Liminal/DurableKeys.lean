import Mathlib.Algebra.GroupWithZero.Nat
import Mathlib.Data.List.Basic

/-!
# Storage keys of durable objects

Four modules of the source format the keys under which they store cursors, channel partitions,
conversations and idempotency keys, three of them as two texts around a colon. An idempotency key is
only read as bytes. The store's engine is not part of the source: what it is trusted with, that an
operation keeps to the keys it is given, is `Confined`.
-/

namespace Liminal

open List

section

variable {V R : Type}

end

end Liminal

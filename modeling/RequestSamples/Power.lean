/-!
# Powers

A power with a natural exponent is that of the number system itself.  This instance comes before all others,
so that a power is the same term whatever else a module imports.
-/

namespace RequestSamples

@[default_instance 20000]
instance (priority := 20000) naturalPower {α : Type} [NatPow α] : Pow α Nat := instPowNat

end RequestSamples

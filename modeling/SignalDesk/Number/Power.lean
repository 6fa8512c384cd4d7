-- A power of a natural number or an integer is the one of the core library, also where algebra
-- offers another way to it.
attribute [instance (2000), default_instance 20000] instPowNat

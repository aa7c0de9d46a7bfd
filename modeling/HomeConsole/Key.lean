/-!
# Keys

What a terminal reports and the console listens to.
-/

namespace HomeConsole

/-- A key, or another event of the terminal. -/
inductive Key where
  /-- The key that ends the console wherever it is. -/
  | interrupt
  | escape
  | enter
  | backspace
  | up
  | down
  | pageUp
  | pageDown
  | char (c : Char)
  /-- The terminal has another size. -/
  | resize
deriving DecidableEq, Inhabited

end HomeConsole

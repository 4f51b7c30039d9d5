import OrderDesk.Demo

/-! Fills a new desk with demo rows and prints what is on it. -/

open OrderDesk

/-- The time of the rows, in unix seconds, is the only argument; without one it is the beginning
of 1970. The tokens are signed under the secret in the environment. -/
def main (arguments : List String) : IO UInt32 := do
  let seconds := ((arguments.head?.map Text.readInteger).bind Except.toOption).getD 0
  let defaults : Settings := {}
  let settings := { defaults with
    sessionSecret := (← IO.getEnv "JWT_SECRET").getD defaults.sessionSecret }
  let context : Context := { settings, now := .ofSeconds seconds }
  match (Demo.seed CipherSuite.standard.mac).run context {} with
  | (.ok lines, _) =>
    lines.forM (IO.println ·)
    return 0
  | (.error _, _) => return 1

/-!
# The program on a host

The kernel is firmware. Run on a host, the program only says which target it has to be built for.
-/

/-- Names the target. -/
def main : IO Unit :=
  IO.eprintln "kentos: firmware image, build for thumbv7em-none-eabi"

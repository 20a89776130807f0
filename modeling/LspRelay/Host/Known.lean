import LspRelay.Host.Traffic

namespace LspRelay

/-- A host with a shell and the usual programs on it, which always gives both pipes. -/
def Host.known : Host where
  spawn program args := (Child.launch program args).map fun server =>
    { hasInput := true
      hasOutput := true
      history := fun source sink =>
        ((Traffic.start server source).run sink Traffic.roundLimit 0).history.map (·.moment) }

end LspRelay

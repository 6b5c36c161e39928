import GateSentry.Policy.Legacy
import GateSentry.Proxy.FirstMatch

/-!
# What an imported rule blocks

The retired engine is gone: it is any engine of which the remarks of `legacy_rules.go` hold.  A
list of conditions that narrows a block is the opposite of an empty list, so the import must not
lose all of them.
-/

namespace GateSentry.Proxy

open Foundation ByteText Calendar Policy

section Legacy

variable (platform : CheckPlatform) (matchString : Bytes → Bytes → Bool) (timezone : Bytes)

/-! ## The retired engine -/

variable {exchange : ProxiedExchange} {group : PolicyGroup}

variable {rule : LegacyRule}

variable {platform timezone}

section Carried

variable {rule : LegacyRule} {imported : GroupRule} {exchange : ProxiedExchange}

section

variable (h : rule.Carries platform timezone imported)

include h

section

variable (hblock : imported.action = .block)

include hblock

end

end

end Carried

variable (platform timezone)

end Legacy

end GateSentry.Proxy

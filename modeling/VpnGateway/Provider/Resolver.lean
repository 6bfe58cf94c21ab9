import VpnGateway.Address.Ipv4

/-!
# Resolvers

The providers of DNS over TLS that are known.

* `Resolver`, `Resolver.all`;
* `Resolver.ofName?`, `Resolver.names`.
-/

namespace VpnGateway

/-- A provider of DNS over TLS: its name, the host in its certificate and its addresses. -/
structure Resolver where
  name : String
  host : String
  addresses : List Ipv4
  deriving DecidableEq, Repr

namespace Resolver

/-- Every resolver that is known. -/
def all : List Resolver :=
  [⟨"cloudflare", "cloudflare-dns.com", [⟨1, 1, 1, 1⟩, ⟨1, 0, 0, 1⟩]⟩,
   ⟨"google", "dns.google", [⟨8, 8, 8, 8⟩, ⟨8, 8, 4, 4⟩]⟩,
   ⟨"quad9", "dns.quad9.net", [⟨9, 9, 9, 9⟩, ⟨149, 112, 112, 112⟩]⟩,
   ⟨"quadrant", "dns-tls.qis.io", [⟨12, 159, 2, 159⟩]⟩,
   ⟨"cleanbrowsing", "security-filter-dns.cleanbrowsing.org",
    [⟨185, 228, 168, 9⟩, ⟨185, 228, 169, 9⟩]⟩,
   ⟨"securedns", "dot.securedns.eu", [⟨146, 185, 167, 43⟩]⟩,
   ⟨"libredns", "dot.libredns.gr", [⟨116, 202, 176, 26⟩]⟩]

/-- The resolver with this name. -/
def ofName? (name : String) : Option Resolver :=
  all.find? fun r => r.name == name

/-- The names of the resolvers. -/
def names : List String :=
  all.map name

end Resolver

end VpnGateway

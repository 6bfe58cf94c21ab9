/-!
# Servers of Cyberghost

* `Cyberghost.groups`: the groups of servers;
* `Cyberghost.regions`: the regions, in alphabetical order.
-/

namespace VpnGateway.Cyberghost

/-- The groups of servers. -/
def groups : List String :=
  ["Premium UDP Europe", "Premium UDP USA", "Premium UDP Asia", "NoSpy UDP Europe",
   "Premium TCP Europe", "Premium TCP USA", "Premium TCP Asia", "NoSpy TCP Europe"]

/-- The regions of servers. -/
def regions : List String :=
  ["Albania", "Algeria", "Andorra", "Argentina", "Armenia", "Australia", "Austria", "Bahamas",
   "Bangladesh", "Belarus", "Belgium", "Bosnia and Herzegovina", "Brazil", "Bulgaria",
   "Cambodia", "Canada", "Chile", "China", "Colombia", "Costa Rica", "Croatia", "Cyprus",
   "Czech Republic", "Denmark", "Egypt", "Estonia", "Finland", "France", "Georgia", "Germany",
   "Greece", "Greenland", "Hong Kong", "Hungary", "Iceland", "India", "Indonesia", "Iran",
   "Ireland", "Isle of Man", "Israel", "Italy", "Japan", "Kazakhstan", "Kenya", "Latvia",
   "Liechtenstein", "Lithuania", "Luxembourg", "Macao", "Macedonia", "Malaysia", "Malta",
   "Mexico", "Moldova", "Monaco", "Mongolia", "Montenegro", "Morocco", "Netherlands",
   "New Zealand", "Nigeria", "Norway", "Pakistan", "Panama", "Philippines", "Poland", "Portugal",
   "Qatar", "Romania", "Russian Federation", "Saudi Arabia", "Serbia", "Singapore", "Slovakia",
   "Slovenia", "South Africa", "Spain", "Sri Lanka", "Sweden", "Switzerland", "Taiwan",
   "Thailand", "Turkey", "Ukraine", "United Arab Emirates", "United Kingdom", "United States",
   "Venezuela", "Vietnam"]

end VpnGateway.Cyberghost

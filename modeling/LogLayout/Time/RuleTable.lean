namespace LogLayout.Time

/-!
The rules by which clocks are set forward and back.

A line `= name` opens a set of rules.  Each further line is one rule: first and
last year, month, day, time of day in seconds and the saving in seconds that
holds from then on.  A day is a number, `w>=d` or `w<=d` for the weekday `w` on or
next to the day `d`, or `lastw`; weekdays count from Sunday, which is 0.  Behind the
time stands the clock that it is read on: `w` for the wall clock, `s` for standard
time, `u` for universal time.
-/

/-- The sets of rules, one line each. -/
def ruleTable : String :=
  "= A
   1930 1930 12 1 0w 3600
   1931 1931 4 1 0w 0
   1931 1931 10 15 0w 3600
   1932 1940 3 1 0w 0
   1932 1939 11 1 0w 3600
   1940 1940 7 1 0w 3600
   1941 1941 6 15 0w 0
   1941 1941 10 15 0w 3600
   1943 1943 8 1 0w 0
   1943 1943 10 15 0w 3600
   1946 1946 3 1 0w 0
   1946 1946 10 1 0w 3600
   1963 1963 10 1 0w 0
   1963 1963 12 15 0w 3600
   1964 1966 3 1 0w 0
   1964 1966 10 15 0w 3600
   1967 1967 4 2 0w 0
   1967 1968 10 0>=1 0w 3600
   1968 1969 4 0>=1 0w 0
   1974 1974 1 23 0w 3600
   1974 1974 5 1 0w 0
   1988 1988 12 1 0w 3600
   1989 1993 3 0>=1 0w 0
   1989 1992 10 0>=15 0w 3600
   1999 1999 10 0>=1 0w 3600
   2000 2000 3 3 0w 0
   2007 2007 12 30 0w 3600
   2008 2009 3 0>=15 0w 0
   2008 2008 10 0>=15 0w 3600
   = AM
   2011 2011 3 last0 7200s 3600
   2011 2011 10 last0 7200s 0
   = AN
   1971 1985 10 last0 7200s 3600
   1972 1972 2 27 7200s 0
   1973 1981 3 0>=1 7200s 0
   1982 1982 4 0>=1 7200s 0
   1983 1985 3 0>=1 7200s 0
   1986 1989 3 0>=15 7200s 0
   1986 1986 10 19 7200s 3600
   1987 1999 10 last0 7200s 3600
   1990 1995 3 0>=1 7200s 0
   1996 2005 3 last0 7200s 0
   2000 2000 8 last0 7200s 3600
   2001 2007 10 last0 7200s 3600
   2006 2006 4 0>=1 7200s 0
   2007 2007 3 last0 7200s 0
   2008 9999 4 0>=1 7200s 0
   2008 9999 10 0>=1 7200s 3600
   = AQ
   1971 1971 10 last0 7200s 3600
   1972 1972 2 last0 7200s 0
   1989 1991 10 last0 7200s 3600
   1990 1992 3 0>=1 7200s 0
   = AS
   1971 1985 10 last0 7200s 3600
   1986 1986 10 19 7200s 3600
   1987 2007 10 last0 7200s 3600
   1972 1972 2 27 7200s 0
   1973 1985 3 0>=1 7200s 0
   1986 1990 3 0>=15 7200s 0
   1991 1991 3 3 7200s 0
   1992 1992 3 22 7200s 0
   1993 1993 3 7 7200s 0
   1994 1994 3 20 7200s 0
   1995 2005 3 last0 7200s 0
   2006 2006 4 2 7200s 0
   2007 2007 3 last0 7200s 0
   2008 9999 4 0>=1 7200s 0
   2008 9999 10 0>=1 7200s 3600
   = AT
   1916 1916 10 0>=1 7200s 3600
   1917 1917 3 last0 7200s 0
   1917 1918 10 0>=22 7200s 3600
   1918 1919 3 0>=1 7200s 0
   1967 1967 10 0>=1 7200s 3600
   1968 1968 3 0>=29 7200s 0
   1968 1985 10 last0 7200s 3600
   1969 1971 3 0>=8 7200s 0
   1972 1972 2 last0 7200s 0
   1973 1981 3 0>=1 7200s 0
   1982 1983 3 last0 7200s 0
   1984 1986 3 0>=1 7200s 0
   1986 1986 10 0>=15 7200s 3600
   1987 1990 3 0>=15 7200s 0
   1987 1987 10 0>=22 7200s 3600
   1988 1990 10 last0 7200s 3600
   1991 1999 10 0>=1 7200s 3600
   1991 2005 3 last0 7200s 0
   2000 2000 8 last0 7200s 3600
   2001 9999 10 0>=1 7200s 3600
   2006 2006 4 0>=1 7200s 0
   2007 2007 3 last0 7200s 0
   2008 9999 4 0>=1 7200s 0
   = AU
   1917 1917 1 1 7200s 3600
   1917 1917 3 last0 7200s 0
   1942 1942 1 1 7200s 3600
   1942 1942 3 last0 7200s 0
   1942 1942 9 27 7200s 3600
   1943 1944 3 last0 7200s 0
   1943 1943 10 3 7200s 3600
   = AV
   1971 1985 10 last0 7200s 3600
   1972 1972 2 last0 7200s 0
   1973 1985 3 0>=1 7200s 0
   1986 1990 3 0>=15 7200s 0
   1986 1987 10 0>=15 7200s 3600
   1988 1999 10 last0 7200s 3600
   1991 1994 3 0>=1 7200s 0
   1995 2005 3 last0 7200s 0
   2000 2000 8 last0 7200s 3600
   2001 2007 10 last0 7200s 3600
   2006 2006 4 0>=1 7200s 0
   2007 2007 3 last0 7200s 0
   2008 9999 4 0>=1 7200s 0
   2008 9999 10 0>=1 7200s 3600
   = AW
   1974 1974 10 last0 7200s 3600
   1975 1975 3 0>=1 7200s 0
   1983 1983 10 last0 7200s 3600
   1984 1984 3 0>=1 7200s 0
   1991 1991 11 17 7200s 3600
   1992 1992 3 0>=1 7200s 0
   2006 2006 12 3 7200s 3600
   2007 2009 3 last0 7200s 0
   2007 2008 10 last0 7200s 3600
   = AZ
   1997 2015 3 last0 14400w 3600
   1997 2015 10 last0 18000w 0
   = B
   1931 1931 10 3 39600w 3600
   1932 1933 4 1 0w 0
   1932 1932 10 3 0w 3600
   1949 1952 12 1 0w 3600
   1950 1950 4 16 3600w 0
   1951 1952 4 1 0w 0
   1953 1953 3 1 0w 0
   1963 1963 12 9 0w 3600
   1964 1964 3 1 0w 0
   1965 1965 1 31 0w 3600
   1965 1965 3 31 0w 0
   1965 1965 12 1 0w 3600
   1966 1968 3 1 0w 0
   1966 1967 11 1 0w 3600
   1985 1985 11 2 0w 3600
   1986 1986 3 15 0w 0
   1986 1986 10 25 0w 3600
   1987 1987 2 14 0w 0
   1987 1987 10 25 0w 3600
   1988 1988 2 7 0w 0
   1988 1988 10 16 0w 3600
   1989 1989 1 29 0w 0
   1989 1989 10 15 0w 3600
   1990 1990 2 11 0w 0
   1990 1990 10 21 0w 3600
   1991 1991 2 17 0w 0
   1991 1991 10 20 0w 3600
   1992 1992 2 9 0w 0
   1992 1992 10 25 0w 3600
   1993 1993 1 31 0w 0
   1993 1995 10 0>=11 0w 3600
   1994 1995 2 0>=15 0w 0
   1996 1996 2 11 0w 0
   1996 1996 10 6 0w 3600
   1997 1997 2 16 0w 0
   1997 1997 10 6 0w 3600
   1998 1998 3 1 0w 0
   1998 1998 10 11 0w 3600
   1999 1999 2 21 0w 0
   1999 1999 10 3 0w 3600
   2000 2000 2 27 0w 0
   2000 2001 10 0>=8 0w 3600
   2001 2006 2 0>=15 0w 0
   2002 2002 11 3 0w 3600
   2003 2003 10 19 0w 3600
   2004 2004 11 2 0w 3600
   2005 2005 10 16 0w 3600
   2006 2006 11 5 0w 3600
   2007 2007 2 25 0w 0
   2007 2007 10 0>=8 0w 3600
   2008 2017 10 0>=15 0w 3600
   2008 2011 2 0>=15 0w 0
   2012 2012 2 0>=22 0w 0
   2013 2014 2 0>=15 0w 0
   2015 2015 2 0>=22 0w 0
   2016 2019 2 0>=15 0w 0
   2018 2018 11 0>=1 0w 3600
   = BB
   1942 1942 4 19 18000u 3600
   1942 1942 8 31 21600u 0
   1943 1943 5 2 18000u 3600
   1943 1943 9 5 21600u 0
   1944 1944 4 10 18000u 1800
   1944 1944 9 10 21600u 0
   1977 1977 6 12 7200w 3600
   1977 1978 10 0>=1 7200w 0
   1978 1980 4 0>=15 7200w 3600
   1979 1979 9 30 7200w 0
   1980 1980 9 25 7200w 0
   = BD
   2009 2009 6 19 82800w 3600
   2009 2009 12 31 86400w 0
   = BG
   1979 1979 3 31 82800w 3600
   1979 1979 10 1 3600w 0
   1980 1982 4 6>=1 82800w 3600
   1980 1980 9 29 3600w 0
   1981 1981 9 27 7200w 0
   = BZ
   1918 1941 10 6>=1 86400w 1800
   1919 1942 2 6>=8 86400w 0
   1942 1942 6 27 86400w 3600
   1945 1945 8 14 82800u 3600
   1945 1945 12 15 86400w 0
   1947 1967 10 6>=1 86400w 1800
   1948 1968 2 6>=8 86400w 0
   1973 1973 12 5 0w 3600
   1974 1974 2 9 0w 0
   1982 1982 12 18 0w 3600
   1983 1983 2 12 0w 0
   = Be
   1917 1917 4 5 86400w 3600
   1917 1917 9 30 86400w 0
   1918 1918 4 13 86400w 3600
   1918 1918 9 15 86400w 0
   1942 1942 1 11 7200w 3600
   1942 1942 10 18 7200w 0
   1943 1943 3 21 7200w 3600
   1943 1943 10 31 7200w 0
   1944 1945 3 0>=8 7200w 3600
   1944 1945 11 0>=1 7200w 0
   1947 1947 5 0>=15 7200w 3600
   1947 1947 9 0>=8 7200w 0
   1948 1952 5 0>=22 7200w 3600
   1948 1952 9 0>=1 7200w 0
   1956 1956 5 0>=22 7200w 3600
   1956 1956 10 last0 7200w 0
   = C
   1918 1918 4 14 7200w 3600
   1918 1918 10 27 7200w 0
   1942 1942 2 9 7200w 3600
   1945 1945 8 14 82800u 3600
   1945 1945 9 30 7200w 0
   1974 1986 4 last0 7200w 3600
   1974 2006 10 last0 7200w 0
   1987 2006 4 0>=1 7200w 3600
   2007 9999 3 0>=8 7200w 3600
   2007 9999 11 0>=1 7200w 0
   = CA
   1948 1948 3 14 7260w 3600
   1949 1949 1 1 7200w 0
   1950 1966 4 last0 3600w 3600
   1950 1961 9 last0 7200w 0
   1962 1966 10 last0 7200w 0
   = CH
   1941 1942 5 1>=1 3600w 3600
   1941 1942 10 1>=1 7200w 0
   = CK
   1978 1978 11 12 0w 1800
   1979 1991 3 0>=1 0w 0
   1979 1990 10 last0 0w 1800
   = CN
   1986 1986 5 4 7200w 3600
   1986 1991 9 0>=11 7200w 0
   1987 1991 4 0>=11 7200w 3600
   = CO
   1992 1992 5 3 0w 3600
   1993 1993 2 6 86400w 0
   = CR
   1979 1980 2 last0 0w 3600
   1979 1980 6 0>=1 0w 0
   1991 1992 1 6>=15 0w 3600
   1991 1991 7 1 0w 0
   1992 1992 3 15 0w 0
   = CY
   1975 1975 4 13 0w 3600
   1975 1975 10 12 0w 0
   1976 1976 5 15 0w 3600
   1976 1976 10 11 0w 0
   1977 1980 4 0>=1 0w 3600
   1977 1977 9 25 0w 0
   1978 1978 10 2 0w 0
   1979 1997 9 last0 0w 0
   1981 1998 3 last0 0w 3600
   = CZ
   1945 1945 4 1>=1 7200s 3600
   1945 1945 10 1 7200s 0
   1946 1946 5 6 7200s 3600
   1946 1949 10 0>=1 7200s 0
   1947 1948 4 0>=15 7200s 3600
   1949 1949 4 9 7200s 3600
   = Ch
   1920 1920 6 13 7200w 3600
   1920 1921 10 last0 7200w 0
   1921 1921 3 last0 7200w 3600
   1922 1966 4 last0 7200w 3600
   1922 1954 9 last0 7200w 0
   1955 1966 10 last0 7200w 0
   = DE
   1946 1946 4 14 7200s 3600
   1946 1946 10 7 7200s 0
   1947 1949 10 0>=1 7200s 0
   1947 1947 4 6 10800s 3600
   1947 1947 5 11 7200s 7200
   1947 1947 6 29 10800w 3600
   1948 1948 4 18 7200s 3600
   1949 1949 4 10 7200s 3600
   = DO
   1966 1966 10 30 0w 3600
   1967 1967 2 28 0w 0
   1969 1973 10 last0 0w 1800
   1970 1970 2 21 0w 0
   1971 1971 1 20 0w 0
   1972 1974 1 21 0w 0
   = De
   1920 1921 3 last0 7200w 3600
   1920 1920 10 last0 7200w 0
   1921 1921 5 22 7200w 0
   1965 1966 4 last0 7200w 3600
   1965 1966 10 last0 7200w 0
   = Dt
   1948 1948 4 last0 7200w 3600
   1948 1948 9 last0 7200w 0
   = E
   1977 1980 4 0>=1 3600u 3600
   1977 1977 9 last0 3600u 0
   1978 1978 10 1 3600u 0
   1979 1995 9 last0 3600u 0
   1981 9999 3 last0 3600u 3600
   1996 9999 10 last0 3600u 0
   = EC
   1992 1992 11 28 0w 3600
   1993 1993 2 5 0w 0
   = Ed
   1918 1919 4 0>=8 7200w 3600
   1918 1918 10 27 7200w 0
   1919 1919 5 27 7200w 0
   1920 1923 4 last0 7200w 3600
   1920 1920 10 last0 7200w 0
   1921 1923 9 last0 7200w 0
   1942 1942 2 9 7200w 3600
   1945 1945 8 14 82800u 3600
   1945 1945 9 last0 7200w 0
   1947 1947 4 last0 7200w 3600
   1947 1947 9 last0 7200w 0
   1972 1986 4 last0 7200w 3600
   1972 2006 10 last0 7200w 0
   = F
   1916 1916 6 14 82800s 3600
   1916 1919 10 0>=1 82800s 0
   1917 1917 3 24 82800s 3600
   1918 1918 3 9 82800s 3600
   1919 1919 3 1 82800s 3600
   1920 1920 2 14 82800s 3600
   1920 1920 10 23 82800s 0
   1921 1921 3 14 82800s 3600
   1921 1921 10 25 82800s 0
   1922 1922 3 25 82800s 3600
   1922 1938 10 6>=1 82800s 0
   1923 1923 5 26 82800s 3600
   1924 1924 3 29 82800s 3600
   1925 1925 4 4 82800s 3600
   1926 1926 4 17 82800s 3600
   1927 1927 4 9 82800s 3600
   1928 1928 4 14 82800s 3600
   1929 1929 4 20 82800s 3600
   1930 1930 4 12 82800s 3600
   1931 1931 4 18 82800s 3600
   1932 1932 4 2 82800s 3600
   1933 1933 3 25 82800s 3600
   1934 1934 4 7 82800s 3600
   1935 1935 3 30 82800s 3600
   1936 1936 4 18 82800s 3600
   1937 1937 4 3 82800s 3600
   1938 1938 3 26 82800s 3600
   1939 1939 4 15 82800s 3600
   1939 1939 11 18 82800s 0
   1940 1940 2 25 7200w 3600
   1941 1941 5 5 0w 7200
   1941 1941 10 6 0w 3600
   1942 1942 3 9 0w 7200
   1942 1942 11 2 10800w 3600
   1943 1943 3 29 7200w 7200
   1943 1943 10 4 10800w 3600
   1944 1944 4 3 7200w 7200
   1944 1944 10 8 3600w 3600
   1945 1945 4 2 7200w 7200
   1945 1945 9 16 10800w 0
   1976 1976 3 28 3600w 3600
   1976 1976 9 26 3600w 0
   = FI
   1942 1942 4 2 86400w 3600
   1942 1942 10 4 3600w 0
   1981 1982 3 last0 7200w 3600
   1981 1982 9 last0 10800w 0
   = FJ
   1998 1999 11 0>=1 7200w 3600
   1999 2000 2 last0 10800w 0
   2009 2009 11 29 7200w 3600
   2010 2010 3 last0 10800w 0
   2010 2013 10 0>=21 7200w 3600
   2011 2011 3 0>=1 10800w 0
   2012 2013 1 0>=18 10800w 0
   2014 2014 1 0>=18 7200w 0
   2014 2018 11 0>=1 7200w 3600
   2015 2021 1 0>=12 10800w 0
   2019 2019 11 0>=8 7200w 3600
   2020 2020 12 20 7200w 3600
   = FK
   1937 1938 9 last0 0w 3600
   1938 1942 3 0>=19 0w 0
   1939 1939 10 1 0w 3600
   1940 1942 9 last0 0w 3600
   1943 1943 1 1 0w 0
   1983 1983 9 last0 0w 3600
   1984 1985 4 last0 0w 0
   1984 1984 9 16 0w 3600
   1985 2000 9 0>=9 0w 3600
   1986 2000 4 0>=16 0w 0
   2001 2010 4 0>=15 7200w 0
   2001 2010 9 0>=1 7200w 3600
   = G
   1916 1916 5 21 7200s 3600
   1916 1916 10 1 7200s 0
   1917 1917 4 8 7200s 3600
   1917 1917 9 17 7200s 0
   1918 1918 3 24 7200s 3600
   1918 1918 9 30 7200s 0
   1919 1919 3 30 7200s 3600
   1919 1919 9 29 7200s 0
   1920 1920 3 28 7200s 3600
   1920 1920 10 25 7200s 0
   1921 1921 4 3 7200s 3600
   1921 1921 10 3 7200s 0
   1922 1922 3 26 7200s 3600
   1922 1922 10 8 7200s 0
   1923 1923 4 0>=16 7200s 3600
   1923 1924 9 0>=16 7200s 0
   1924 1924 4 0>=9 7200s 3600
   1925 1926 4 0>=16 7200s 3600
   1925 1938 10 0>=2 7200s 0
   1927 1927 4 0>=9 7200s 3600
   1928 1929 4 0>=16 7200s 3600
   1930 1930 4 0>=9 7200s 3600
   1931 1932 4 0>=16 7200s 3600
   1933 1933 4 0>=9 7200s 3600
   1934 1934 4 0>=16 7200s 3600
   1935 1935 4 0>=9 7200s 3600
   1936 1937 4 0>=16 7200s 3600
   1938 1938 4 0>=9 7200s 3600
   1939 1939 4 0>=16 7200s 3600
   1939 1939 11 0>=16 7200s 0
   1940 1940 2 0>=23 7200s 3600
   1941 1941 5 0>=2 3600s 7200
   1941 1943 8 0>=9 3600s 3600
   1942 1944 4 0>=2 3600s 7200
   1944 1944 9 0>=16 3600s 3600
   1945 1945 4 1>=2 3600s 7200
   1945 1945 7 0>=9 3600s 3600
   1945 1946 10 0>=2 7200s 0
   1946 1946 4 0>=9 7200s 3600
   1947 1947 3 16 7200s 3600
   1947 1947 4 13 3600s 7200
   1947 1947 8 10 3600s 3600
   1947 1947 11 2 7200s 0
   1948 1948 3 14 7200s 3600
   1948 1948 10 31 7200s 0
   1949 1949 4 3 7200s 3600
   1949 1949 10 30 7200s 0
   1950 1952 4 0>=14 7200s 3600
   1950 1952 10 0>=21 7200s 0
   1953 1953 4 0>=16 7200s 3600
   1953 1960 10 0>=2 7200s 0
   1954 1954 4 0>=9 7200s 3600
   1955 1956 4 0>=16 7200s 3600
   1957 1957 4 0>=9 7200s 3600
   1958 1959 4 0>=16 7200s 3600
   1960 1960 4 0>=9 7200s 3600
   1961 1963 3 last0 7200s 3600
   1961 1968 10 0>=23 7200s 0
   1964 1967 3 0>=19 7200s 3600
   1968 1968 2 18 7200s 3600
   1972 1980 3 0>=16 7200s 3600
   1972 1980 10 0>=23 7200s 0
   1981 1995 3 last0 3600u 3600
   1981 1989 10 0>=23 3600u 0
   1990 1995 10 0>=22 3600u 0
   = GT
   1973 1973 11 25 0w 3600
   1974 1974 2 24 0w 0
   1983 1983 5 21 0w 3600
   1983 1983 9 22 0w 0
   1991 1991 3 23 0w 3600
   1991 1991 9 7 0w 0
   2006 2006 4 30 0w 3600
   2006 2006 10 1 0w 0
   = Gu
   1959 1959 6 27 7200w 3600
   1961 1961 1 29 7200w 0
   1967 1967 9 1 7200w 3600
   1969 1969 1 26 60w 0
   1969 1969 6 22 7200w 3600
   1969 1969 8 31 7200w 0
   1970 1971 4 last0 7200w 3600
   1970 1971 9 0>=1 7200w 0
   1973 1973 12 16 7200w 3600
   1974 1974 2 24 7200w 0
   1976 1976 5 26 7200w 3600
   1976 1976 8 22 7260w 0
   1977 1977 4 24 7200w 3600
   1977 1977 8 28 7200w 0
   = H
   1916 1916 4 1 0w 3600
   1916 1916 10 1 0w 0
   1920 1920 5 9 0w 3600
   1920 1920 8 29 0w 0
   1921 1921 5 6 0w 3600
   1921 1922 9 5 0w 0
   1922 1922 4 30 0w 3600
   1923 1925 5 0>=1 0w 3600
   1923 1923 9 4 0w 0
   1924 1924 9 15 0w 0
   1925 1925 9 28 0w 0
   1926 1926 5 16 0w 3600
   1926 1926 9 13 0w 0
   1927 1927 5 1 0w 3600
   1927 1927 9 26 0w 0
   1928 1931 5 0>=8 0w 3600
   1928 1928 9 9 0w 0
   1929 1929 9 3 0w 0
   1930 1930 9 15 0w 0
   1931 1932 9 1>=24 0w 0
   1932 1932 5 1 0w 3600
   1933 1933 4 30 0w 3600
   1933 1933 10 2 0w 0
   1934 1934 5 20 0w 3600
   1934 1934 9 16 0w 0
   1935 1935 6 2 0w 3600
   1935 1935 9 30 0w 0
   1936 1936 6 1 0w 3600
   1936 1936 9 14 0w 0
   1937 1938 5 0>=1 0w 3600
   1937 1941 9 1>=24 0w 0
   1939 1939 5 28 0w 3600
   1940 1941 5 0>=1 0w 3600
   1946 1949 4 last0 7200w 3600
   1946 1949 9 last0 7200w 0
   1951 1954 4 last0 7200w 3600
   1951 1954 9 last0 7200w 0
   1956 1959 4 last0 7200w 3600
   1956 1959 9 last0 7200w 0
   1962 1973 4 last0 7200w 3600
   1962 1973 10 last0 7200w 0
   = HK
   1946 1946 4 21 0w 3600
   1946 1946 12 1 12600s 0
   1947 1947 4 13 12600s 3600
   1947 1947 11 30 12600s 0
   1948 1948 5 2 12600s 3600
   1948 1952 10 0>=28 12600s 0
   1949 1953 4 0>=1 12600w 3600
   1953 1964 10 0>=31 12600w 0
   1954 1964 3 0>=18 12600w 3600
   1965 1976 4 0>=16 12600w 3600
   1965 1976 10 0>=16 12600w 0
   1973 1973 12 30 12600w 3600
   1979 1979 5 13 12600w 3600
   1979 1979 10 21 12600w 0
   = HN
   1987 1988 5 0>=1 0w 3600
   1987 1988 9 last0 0w 0
   2006 2006 5 0>=1 0w 3600
   2006 2006 8 1>=1 0w 0
   = HT
   1983 1983 5 8 0w 3600
   1984 1987 4 last0 0w 3600
   1983 1987 10 last0 0w 0
   1988 1997 4 0>=1 3600s 3600
   1988 1997 10 last0 3600s 0
   2005 2006 4 0>=1 0w 3600
   2005 2006 10 last0 0w 0
   2012 2015 3 0>=8 7200w 3600
   2012 2015 11 0>=1 7200w 0
   2017 9999 3 0>=8 7200w 3600
   2017 9999 11 0>=1 7200w 0
   = Ho
   1992 1993 10 last0 7200s 3600
   1993 1994 3 0>=1 7200s 0
   = I
   1916 1916 6 3 86400w 3600
   1916 1917 9 30 86400w 0
   1917 1917 3 31 86400w 3600
   1918 1918 3 9 86400w 3600
   1918 1918 10 6 86400w 0
   1919 1919 3 1 86400w 3600
   1919 1919 10 4 86400w 0
   1920 1920 3 20 86400w 3600
   1920 1920 9 18 86400w 0
   1940 1940 6 14 86400w 3600
   1942 1942 11 2 7200s 0
   1943 1943 3 29 7200s 3600
   1943 1943 10 4 7200s 0
   1944 1944 4 2 7200s 3600
   1944 1944 9 17 7200s 0
   1945 1945 4 2 7200w 3600
   1945 1945 9 15 3600w 0
   1946 1946 3 17 7200s 3600
   1946 1946 10 6 7200s 0
   1947 1947 3 16 0s 3600
   1947 1947 10 5 0s 0
   1948 1948 2 29 7200s 3600
   1948 1948 10 3 7200s 0
   1966 1968 5 0>=22 0s 3600
   1966 1966 9 24 86400w 0
   1967 1969 9 0>=22 0s 0
   1969 1969 6 1 0s 3600
   1970 1970 5 31 0s 3600
   1970 1970 9 last0 0s 0
   1971 1972 5 0>=22 0s 3600
   1971 1971 9 last0 0s 0
   1972 1972 10 1 0s 0
   1973 1973 6 3 0s 3600
   1973 1974 9 last0 0s 0
   1974 1974 5 26 0s 3600
   1975 1975 6 1 0s 3600
   1975 1977 9 last0 0s 0
   1976 1976 5 30 0s 3600
   1977 1979 5 0>=22 0s 3600
   1978 1978 10 1 0s 0
   1979 1979 9 30 0s 0
   = IQ
   1982 1982 5 1 0w 3600
   1982 1984 10 1 0w 0
   1983 1983 3 31 0w 3600
   1984 1985 4 1 0w 3600
   1985 1990 9 last0 3600s 0
   1986 1990 3 last0 3600s 3600
   1991 2007 4 1 10800s 3600
   1991 2007 10 1 10800s 0
   = In
   1941 1941 6 22 7200w 3600
   1941 1954 9 last0 7200w 0
   1946 1954 4 last0 7200w 3600
   = J
   1973 1973 6 6 0w 3600
   1973 1975 10 1 0w 0
   1974 1977 5 1 0w 3600
   1976 1976 11 1 0w 0
   1977 1977 10 1 0w 0
   1978 1978 4 30 0w 3600
   1978 1978 9 30 0w 0
   1985 1985 4 1 0w 3600
   1985 1985 10 1 0w 0
   1986 1988 4 5>=1 0w 3600
   1986 1990 10 5>=1 0w 0
   1989 1989 5 8 0w 3600
   1990 1990 4 27 0w 3600
   1991 1991 4 17 0w 3600
   1991 1991 9 27 0w 0
   1992 1992 4 10 0w 3600
   1992 1993 10 5>=1 0w 0
   1993 1998 4 5>=1 0w 3600
   1994 1994 9 5>=15 0w 0
   1995 1998 9 5>=15 0s 0
   1999 1999 7 1 0s 3600
   1999 2002 9 last5 0s 0
   2000 2001 3 last4 0s 3600
   2002 2012 3 last4 86400w 3600
   2003 2003 10 24 0s 0
   2004 2004 10 15 0s 0
   2005 2005 9 last5 0s 0
   2006 2011 10 last5 0s 0
   2013 2013 12 20 0w 0
   2014 2021 3 last4 86400w 3600
   2014 2022 10 last5 0s 0
   2022 2022 2 last4 86400w 3600
   = JP
   1948 1948 5 6>=1 86400w 3600
   1948 1951 9 0>=9 3600w 0
   1949 1949 4 6>=1 86400w 3600
   1950 1951 5 6>=1 86400w 3600
   = K
   1940 1940 7 15 0w 3600
   1940 1940 10 1 0w 0
   1941 1941 4 15 0w 3600
   1941 1941 9 16 0w 0
   1942 1944 4 1 0w 3600
   1942 1942 10 27 0w 0
   1943 1945 11 1 0w 0
   1945 1945 4 16 0w 3600
   1957 1957 5 10 0w 3600
   1957 1958 10 1 0w 0
   1958 1958 5 1 0w 3600
   1959 1981 5 1 3600w 3600
   1959 1965 9 30 10800w 0
   1966 1994 10 1 10800w 0
   1982 1982 7 25 3600w 3600
   1983 1983 7 12 3600w 3600
   1984 1988 5 1 3600w 3600
   1989 1989 5 6 3600w 3600
   1990 1994 5 1 3600w 3600
   1995 2010 4 last5 0s 3600
   1995 2005 9 last4 86400w 0
   2006 2006 9 21 86400w 0
   2007 2007 9 4>=1 86400w 0
   2008 2008 8 last4 86400w 0
   2009 2009 8 20 86400w 0
   2010 2010 8 10 86400w 0
   2010 2010 9 9 86400w 3600
   2010 2010 9 last4 86400w 0
   2014 2014 5 15 86400w 3600
   2014 2014 6 26 86400w 0
   2014 2014 7 31 86400w 3600
   2014 2014 9 last4 86400w 0
   2023 9999 4 last5 0w 3600
   2023 9999 10 last4 86400w 0
   = KG
   1992 1996 4 0>=7 0s 3600
   1992 1996 9 last0 0w 0
   1997 2005 3 last0 9000w 3600
   1997 2004 10 last0 9000w 0
   = KR
   1948 1948 6 1 0w 3600
   1948 1948 9 12 86400w 0
   1949 1949 4 3 0w 3600
   1949 1951 9 6>=7 86400w 0
   1950 1950 4 1 0w 3600
   1951 1951 5 6 0w 3600
   1955 1955 5 5 0w 3600
   1955 1955 9 8 86400w 0
   1956 1956 5 20 0w 3600
   1956 1956 9 29 86400w 0
   1957 1960 5 0>=1 0w 3600
   1957 1960 9 6>=17 86400w 0
   1987 1988 5 0>=8 7200w 3600
   1987 1988 10 0>=8 10800w 0
   = L
   1951 1951 10 14 7200w 3600
   1952 1952 1 1 0w 0
   1953 1953 10 9 7200w 3600
   1954 1954 1 1 0w 0
   1955 1955 9 30 0w 3600
   1956 1956 1 1 0w 0
   1982 1984 4 1 0w 3600
   1982 1985 10 1 0w 0
   1985 1985 4 6 0w 3600
   1986 1986 4 4 0w 3600
   1986 1986 10 3 0w 0
   1987 1989 4 1 0w 3600
   1987 1989 10 1 0w 0
   1997 1997 4 4 0w 3600
   1997 1997 10 4 0w 0
   2013 2013 3 last5 3600w 3600
   2013 2013 10 last5 7200w 0
   = LH
   1981 1984 10 last0 7200w 3600
   1982 1985 3 0>=1 7200w 0
   1985 1985 10 last0 7200w 1800
   1986 1989 3 0>=15 7200w 0
   1986 1986 10 19 7200w 1800
   1987 1999 10 last0 7200w 1800
   1990 1995 3 0>=1 7200w 0
   1996 2005 3 last0 7200w 0
   2000 2000 8 last0 7200w 1800
   2001 2007 10 last0 7200w 1800
   2006 2006 4 0>=1 7200w 0
   2007 2007 3 last0 7200w 0
   2008 9999 4 0>=1 7200w 0
   2008 9999 10 0>=1 7200w 1800
   = LV
   1989 1996 3 last0 7200s 3600
   1989 1996 9 last0 7200s 0
   = M
   1939 1939 9 12 0w 3600
   1939 1939 11 19 0w 0
   1940 1940 2 25 0w 3600
   1945 1945 11 18 0w 0
   1950 1950 6 11 0w 3600
   1950 1950 10 29 0w 0
   1967 1967 6 3 43200w 3600
   1967 1967 10 1 0w 0
   1974 1974 6 24 0w 3600
   1974 1974 9 1 0w 0
   1976 1977 5 1 0w 3600
   1976 1976 8 1 0w 0
   1977 1977 9 28 0w 0
   1978 1978 6 1 0w 3600
   1978 1978 8 4 0w 0
   2008 2008 6 1 0w 3600
   2008 2008 9 1 0w 0
   2009 2009 6 1 0w 3600
   2009 2009 8 21 0w 0
   2010 2010 5 2 0w 3600
   2010 2010 8 8 0w 0
   2011 2011 4 3 0w 3600
   2011 2011 7 31 0w 0
   2012 2013 4 last0 7200w 3600
   2012 2012 7 20 10800w 0
   2012 2012 8 20 7200w 3600
   2012 2012 9 30 10800w 0
   2013 2013 7 7 10800w 0
   2013 2013 8 10 7200w 3600
   2013 2017 10 last0 10800w 0
   2014 2018 3 last0 7200w 3600
   2014 2014 6 28 10800w 0
   2014 2014 8 2 7200w 3600
   2015 2015 6 14 10800w 0
   2015 2015 7 19 7200w 3600
   2016 2016 6 5 10800w 0
   2016 2016 7 10 7200w 3600
   2017 2017 5 21 10800w 0
   2017 2017 7 2 7200w 3600
   2018 2018 5 13 10800w 0
   2018 2018 6 17 7200w 3600
   2019 2019 5 5 10800w 0
   2019 2019 6 9 7200w 3600
   2020 2020 4 19 10800w 0
   2020 2020 5 31 7200w 3600
   2021 2021 4 11 10800w 0
   2021 2021 5 16 7200w 3600
   2022 2022 3 27 10800w 0
   2022 2022 5 8 7200w 3600
   2023 2023 3 19 10800w 0
   2023 2023 4 23 7200w 3600
   2024 2024 3 10 10800w 0
   2024 2024 4 14 7200w 3600
   2025 2025 2 23 10800w 0
   2025 2025 4 6 7200w 3600
   2026 2026 2 15 10800w 0
   2026 2026 3 22 7200w 3600
   2027 2027 2 7 10800w 0
   2027 2027 3 14 7200w 3600
   2028 2028 1 23 10800w 0
   2028 2028 3 5 7200w 3600
   2029 2029 1 14 10800w 0
   2029 2029 2 18 7200w 3600
   2029 2029 12 30 10800w 0
   2030 2030 2 10 7200w 3600
   2030 2030 12 22 10800w 0
   2031 2031 1 26 7200w 3600
   2031 2031 12 14 10800w 0
   2032 2032 1 18 7200w 3600
   2032 2032 11 28 10800w 0
   2033 2033 1 9 7200w 3600
   2033 2033 11 20 10800w 0
   2033 2033 12 25 7200w 3600
   2034 2034 11 5 10800w 0
   2034 2034 12 17 7200w 3600
   2035 2035 10 28 10800w 0
   2035 2035 12 9 7200w 3600
   2036 2036 10 19 10800w 0
   2036 2036 11 23 7200w 3600
   2037 2037 10 4 10800w 0
   2037 2037 11 15 7200w 3600
   2038 2038 9 26 10800w 0
   2038 2038 10 31 7200w 3600
   2039 2039 9 18 10800w 0
   2039 2039 10 23 7200w 3600
   2040 2040 9 2 10800w 0
   2040 2040 10 14 7200w 3600
   2041 2041 8 25 10800w 0
   2041 2041 9 29 7200w 3600
   2042 2042 8 10 10800w 0
   2042 2042 9 21 7200w 3600
   2043 2043 8 2 10800w 0
   2043 2043 9 13 7200w 3600
   2044 2044 7 24 10800w 0
   2044 2044 8 28 7200w 3600
   2045 2045 7 9 10800w 0
   2045 2045 8 20 7200w 3600
   2046 2046 7 1 10800w 0
   2046 2046 8 5 7200w 3600
   2047 2047 6 23 10800w 0
   2047 2047 7 28 7200w 3600
   2048 2048 6 7 10800w 0
   2048 2048 7 19 7200w 3600
   2049 2049 5 30 10800w 0
   2049 2049 7 4 7200w 3600
   2050 2050 5 15 10800w 0
   2050 2050 6 26 7200w 3600
   2051 2051 5 7 10800w 0
   2051 2051 6 18 7200w 3600
   2052 2052 4 28 10800w 0
   2052 2052 6 2 7200w 3600
   2053 2053 4 13 10800w 0
   2053 2053 5 25 7200w 3600
   2054 2054 4 5 10800w 0
   2054 2054 5 10 7200w 3600
   2055 2055 3 28 10800w 0
   2055 2055 5 2 7200w 3600
   2056 2056 3 12 10800w 0
   2056 2056 4 23 7200w 3600
   2057 2057 3 4 10800w 0
   2057 2057 4 8 7200w 3600
   2058 2058 2 17 10800w 0
   2058 2058 3 31 7200w 3600
   2059 2059 2 9 10800w 0
   2059 2059 3 23 7200w 3600
   2060 2060 2 1 10800w 0
   2060 2060 3 7 7200w 3600
   2061 2061 1 16 10800w 0
   2061 2061 2 27 7200w 3600
   2062 2062 1 8 10800w 0
   2062 2062 2 12 7200w 3600
   2062 2062 12 31 10800w 0
   2063 2063 2 4 7200w 3600
   2063 2063 12 16 10800w 0
   2064 2064 1 27 7200w 3600
   2064 2064 12 7 10800w 0
   2065 2065 1 11 7200w 3600
   2065 2065 11 22 10800w 0
   2066 2066 1 3 7200w 3600
   2066 2066 11 14 10800w 0
   2066 2066 12 26 7200w 3600
   2067 2067 11 6 10800w 0
   2067 2067 12 11 7200w 3600
   2068 2068 10 21 10800w 0
   2068 2068 12 2 7200w 3600
   2069 2069 10 13 10800w 0
   2069 2069 11 17 7200w 3600
   2070 2070 10 5 10800w 0
   2070 2070 11 9 7200w 3600
   2071 2071 9 20 10800w 0
   2071 2071 11 1 7200w 3600
   2072 2072 9 11 10800w 0
   2072 2072 10 16 7200w 3600
   2073 2073 8 27 10800w 0
   2073 2073 10 8 7200w 3600
   2074 2074 8 19 10800w 0
   2074 2074 9 30 7200w 3600
   2075 2075 8 11 10800w 0
   2075 2075 9 15 7200w 3600
   2076 2076 7 26 10800w 0
   2076 2076 9 6 7200w 3600
   2077 2077 7 18 10800w 0
   2077 2077 8 22 7200w 3600
   2078 2078 7 10 10800w 0
   2078 2078 8 14 7200w 3600
   2079 2079 6 25 10800w 0
   2079 2079 8 6 7200w 3600
   2080 2080 6 16 10800w 0
   2080 2080 7 21 7200w 3600
   2081 2081 6 1 10800w 0
   2081 2081 7 13 7200w 3600
   2082 2082 5 24 10800w 0
   2082 2082 6 28 7200w 3600
   2083 2083 5 16 10800w 0
   2083 2083 6 20 7200w 3600
   2084 2084 4 30 10800w 0
   2084 2084 6 11 7200w 3600
   2085 2085 4 22 10800w 0
   2085 2085 5 27 7200w 3600
   2086 2086 4 14 10800w 0
   2086 2086 5 19 7200w 3600
   2087 2087 3 30 10800w 0
   2087 2087 5 11 7200w 3600
   = MD
   1997 2021 3 last0 7200w 3600
   1997 2021 10 last0 10800w 0
   = MT
   1973 1973 3 31 0s 3600
   1973 1973 9 29 0s 0
   1974 1974 4 21 0s 3600
   1974 1974 9 16 0s 0
   1975 1979 4 0>=15 7200w 3600
   1975 1980 9 0>=15 7200w 0
   1980 1980 3 31 7200w 3600
   = MU
   1982 1982 10 10 0w 3600
   1983 1983 3 21 0w 0
   2008 2008 10 last0 7200w 3600
   2009 2009 3 last0 7200w 0
   = Ma
   1951 1951 4 last0 7200w 3600
   1951 1951 9 last0 7200w 0
   1954 1960 4 last0 7200w 3600
   1954 1960 9 last0 7200w 0
   = Me
   1946 1946 4 last0 7200w 3600
   1946 1946 9 last0 7200w 0
   1966 1966 4 last0 7200w 3600
   1966 1966 10 last0 7200w 0
   = NA
   1994 1994 3 21 0w 0
   1994 2017 9 0>=1 7200w 3600
   1995 2017 4 0>=1 7200w 0
   = NB
   1935 1941 9 14 0w 1200
   1935 1941 12 14 0w 0
   = NC
   1977 1978 12 0>=1 0w 3600
   1978 1979 2 27 0w 0
   1996 1996 12 1 7200s 3600
   1997 1997 3 2 7200s 0
   = NI
   1979 1980 3 0>=16 0w 3600
   1979 1980 6 1>=23 0w 0
   2005 2005 4 10 0w 3600
   2005 2005 10 0>=1 0w 0
   2006 2006 4 30 7200w 3600
   2006 2006 10 0>=1 3600w 0
   = NY
   1920 1920 3 last0 7200w 3600
   1920 1920 10 last0 7200w 0
   1921 1966 4 last0 7200w 3600
   1921 1954 9 last0 7200w 0
   1955 1966 10 last0 7200w 0
   = NZ
   1927 1927 11 6 7200w 3600
   1928 1928 3 4 7200w 0
   1928 1933 10 0>=8 7200w 1800
   1929 1933 3 0>=15 7200w 0
   1934 1940 4 last0 7200w 0
   1934 1940 9 last0 7200w 1800
   1946 1946 1 1 0w 0
   1974 1974 11 0>=1 7200s 3600
   1975 1975 2 last0 7200s 0
   1975 1988 10 last0 7200s 3600
   1976 1989 3 0>=1 7200s 0
   1989 1989 10 0>=8 7200s 3600
   1990 2006 10 0>=1 7200s 3600
   1990 2007 3 0>=15 7200s 0
   2007 9999 9 last0 7200s 3600
   2008 9999 4 0>=1 7200s 0
   = O
   1918 1919 9 16 7200s 0
   1919 1919 4 15 7200s 3600
   1944 1944 4 3 7200s 3600
   1944 1944 10 4 7200w 0
   1945 1945 4 29 0w 3600
   1945 1945 11 1 0w 0
   1946 1946 4 14 0s 3600
   1946 1946 10 7 7200s 0
   1947 1947 5 4 7200s 3600
   1947 1949 10 0>=1 7200s 0
   1948 1948 4 18 7200s 3600
   1949 1949 4 10 7200s 3600
   1957 1957 6 2 3600s 3600
   1957 1958 9 last0 3600s 0
   1958 1958 3 30 3600s 3600
   1959 1959 5 31 3600s 3600
   1959 1961 10 0>=1 3600s 0
   1960 1960 4 3 3600s 3600
   1961 1964 5 last0 3600s 3600
   1962 1964 9 last0 3600s 0
   = P
   1999 2005 4 5>=15 0w 3600
   1999 2003 10 5>=15 0w 0
   2004 2004 10 1 3600w 0
   2005 2005 10 4 7200w 0
   2006 2007 4 1 0w 3600
   2006 2006 9 22 0w 0
   2007 2007 9 13 7200w 0
   2008 2009 3 last5 0w 3600
   2008 2008 9 1 0w 0
   2009 2009 9 4 3600w 0
   2010 2010 3 26 0w 3600
   2010 2010 8 11 0w 0
   2011 2011 4 1 60w 3600
   2011 2011 8 1 0w 0
   2011 2011 8 30 0w 3600
   2011 2011 9 30 0w 0
   2012 2014 3 last4 86400w 3600
   2012 2012 9 21 3600w 0
   2013 2013 9 27 0w 0
   2014 2014 10 24 0w 0
   2015 2015 3 28 0w 3600
   2015 2015 10 23 3600w 0
   2016 2018 3 6<=30 3600w 3600
   2016 2018 10 6<=30 3600w 0
   2019 2019 3 29 0w 3600
   2019 2019 10 6<=30 0w 0
   2020 2021 3 6<=30 0w 3600
   2020 2020 10 24 3600w 0
   2021 2021 10 29 3600w 0
   2022 2022 3 27 0w 3600
   2022 2035 10 6<=30 7200w 0
   2023 2023 4 29 7200w 3600
   2024 2024 4 20 7200w 3600
   2025 2025 4 12 7200w 3600
   2026 2054 3 6<=30 7200w 3600
   2036 2036 10 18 7200w 0
   2037 2037 10 10 7200w 0
   2038 2038 9 25 7200w 0
   2039 2039 9 17 7200w 0
   2040 2040 9 1 7200w 0
   2040 2040 10 20 7200w 3600
   2040 2067 10 6<=30 7200w 0
   2041 2041 8 24 7200w 0
   2041 2041 10 5 7200w 3600
   2042 2042 8 16 7200w 0
   2042 2042 9 27 7200w 3600
   2043 2043 8 1 7200w 0
   2043 2043 9 19 7200w 3600
   2044 2044 7 23 7200w 0
   2044 2044 9 3 7200w 3600
   2045 2045 7 15 7200w 0
   2045 2045 8 26 7200w 3600
   2046 2046 6 30 7200w 0
   2046 2046 8 18 7200w 3600
   2047 2047 6 22 7200w 0
   2047 2047 8 3 7200w 3600
   2048 2048 6 6 7200w 0
   2048 2048 7 25 7200w 3600
   2049 2049 5 29 7200w 0
   2049 2049 7 10 7200w 3600
   2050 2050 5 21 7200w 0
   2050 2050 7 2 7200w 3600
   2051 2051 5 6 7200w 0
   2051 2051 6 24 7200w 3600
   2052 2052 4 27 7200w 0
   2052 2052 6 8 7200w 3600
   2053 2053 4 12 7200w 0
   2053 2053 5 31 7200w 3600
   2054 2054 4 4 7200w 0
   2054 2054 5 23 7200w 3600
   2055 2055 5 8 7200w 3600
   2056 2056 4 29 7200w 3600
   2057 2057 4 14 7200w 3600
   2058 2058 4 6 7200w 3600
   2059 9999 3 6<=30 7200w 3600
   2068 2068 10 20 7200w 0
   2069 2069 10 12 7200w 0
   2070 2070 10 4 7200w 0
   2071 2071 9 19 7200w 0
   2072 2072 9 10 7200w 0
   2072 2072 10 22 7200w 3600
   2072 9999 10 6<=30 7200w 0
   2073 2073 9 2 7200w 0
   2073 2073 10 14 7200w 3600
   2074 2074 8 18 7200w 0
   2074 2074 10 6 7200w 3600
   2075 2075 8 10 7200w 0
   2075 2075 9 21 7200w 3600
   2076 2076 7 25 7200w 0
   2076 2076 9 12 7200w 3600
   2077 2077 7 17 7200w 0
   2077 2077 9 4 7200w 3600
   2078 2078 7 9 7200w 0
   2078 2078 8 20 7200w 3600
   2079 2079 6 24 7200w 0
   2079 2079 8 12 7200w 3600
   2080 2080 6 15 7200w 0
   2080 2080 7 27 7200w 3600
   2081 2081 6 7 7200w 0
   2081 2081 7 19 7200w 3600
   2082 2082 5 23 7200w 0
   2082 2082 7 11 7200w 3600
   2083 2083 5 15 7200w 0
   2083 2083 6 26 7200w 3600
   2084 2084 4 29 7200w 0
   2084 2084 6 17 7200w 3600
   2085 2085 4 21 7200w 0
   2085 2085 6 9 7200w 3600
   2086 2086 4 13 7200w 0
   2086 2086 5 25 7200w 3600
   = PE
   1938 1938 1 1 0w 3600
   1938 1938 4 1 0w 0
   1938 1939 9 last0 0w 3600
   1939 1940 3 0>=24 0w 0
   1986 1987 1 1 0w 3600
   1986 1987 4 1 0w 0
   1990 1990 1 1 0w 3600
   1990 1990 4 1 0w 0
   1994 1994 1 1 0w 3600
   1994 1994 4 1 0w 0
   = PH
   1936 1936 10 31 86400w 3600
   1937 1937 1 15 86400w 0
   1941 1941 12 15 86400w 3600
   1945 1945 11 30 86400w 0
   1954 1954 4 11 86400w 3600
   1954 1954 6 4 86400w 0
   1977 1977 3 27 86400w 3600
   1977 1977 9 21 86400w 0
   1990 1990 5 21 0w 3600
   1990 1990 7 28 86400w 0
   = PK
   2002 2002 4 0>=2 0w 3600
   2002 2002 10 0>=2 0w 0
   2008 2008 6 1 0w 3600
   2008 2009 11 1 0w 0
   2009 2009 4 15 0w 3600
   = Pe
   1955 1955 5 1 0w 3600
   1955 1960 9 last0 7200w 0
   1956 1963 4 last0 7200w 3600
   1961 1963 10 last0 7200w 0
   = Pi
   1955 1955 5 1 0w 3600
   1955 1960 9 last0 7200w 0
   1956 1964 4 last0 7200w 3600
   1961 1964 10 last0 7200w 0
   = Pu
   1946 1960 4 last0 7200w 3600
   1946 1954 9 last0 7200w 0
   1955 1956 10 last0 7200w 0
   1957 1960 9 last0 7200w 0
   = Q
   1928 1928 6 10 0w 3600
   1928 1928 10 10 0w 0
   1940 1942 6 0>=1 0w 3600
   1940 1942 9 0>=1 0w 0
   1945 1946 6 0>=1 0w 3600
   1945 1946 9 0>=1 0w 0
   1965 1965 6 1 0w 3600
   1965 1965 9 30 0w 0
   1966 1966 5 29 0w 3600
   1966 1966 10 2 0w 0
   1967 1967 4 8 0w 3600
   1967 1968 9 0>=8 0w 0
   1968 1968 4 14 0w 3600
   1969 1977 4 last0 0w 3600
   1969 1971 10 last0 0w 0
   1972 1974 10 8 0w 0
   1975 1977 10 last0 0w 0
   1978 1978 5 7 0w 3600
   1978 1990 10 0>=8 0w 0
   1979 1980 3 0>=15 0w 3600
   1981 1985 5 0>=5 0w 3600
   1986 1989 3 0>=14 0w 3600
   1990 1997 4 0>=1 0w 3600
   1991 1995 10 0>=8 0s 0
   1996 1996 10 6 0s 0
   1997 1997 10 12 0s 0
   1998 1999 3 last0 0s 3600
   1998 2003 10 last0 0s 0
   2000 2003 4 0>=1 0s 3600
   2004 2004 3 last0 0s 3600
   2006 2010 10 last0 0s 0
   2007 2007 3 0>=8 0s 3600
   2008 2008 3 0>=15 0s 3600
   2009 2010 3 0>=8 0s 3600
   2011 2011 3 0>=15 0s 3600
   2011 2011 11 13 0s 0
   2012 2012 4 1 0s 3600
   2012 9999 11 0>=1 0s 0
   2013 9999 3 0>=8 0s 3600
   = R
   1917 1917 7 1 82800w 3600
   1917 1917 12 28 0w 0
   1918 1918 5 31 79200w 7200
   1918 1918 9 16 3600w 3600
   1919 1919 5 31 82800w 7200
   1919 1919 7 1 0u 3600
   1919 1919 8 16 0w 0
   1921 1921 2 14 82800w 3600
   1921 1921 3 20 82800w 7200
   1921 1921 9 1 0w 3600
   1921 1921 10 1 0w 0
   1981 1984 4 1 0w 3600
   1981 1983 10 1 0w 0
   1984 1995 9 last0 7200s 0
   1985 2010 3 last0 7200s 3600
   1996 2010 10 last0 7200s 0
   = S
   1920 1923 4 0>=15 7200w 3600
   1920 1923 10 0>=1 7200w 0
   1962 1962 4 29 7200w 3600
   1962 1962 10 1 7200w 0
   1963 1965 5 1 7200w 3600
   1963 1963 9 30 7200w 0
   1964 1964 10 1 7200w 0
   1965 1965 9 30 7200w 0
   1966 1966 4 24 7200w 3600
   1966 1976 10 1 7200w 0
   1967 1978 5 1 7200w 3600
   1977 1978 9 1 7200w 0
   1983 1984 4 9 7200w 3600
   1983 1984 10 1 7200w 0
   1986 1986 2 16 7200w 3600
   1986 1986 10 9 7200w 0
   1987 1987 3 1 7200w 3600
   1987 1988 10 31 7200w 0
   1988 1988 3 15 7200w 3600
   1989 1989 3 31 7200w 3600
   1989 1989 10 1 7200w 0
   1990 1990 4 1 7200w 3600
   1990 1990 9 30 7200w 0
   1991 1991 4 1 0w 3600
   1991 1992 10 1 0w 0
   1992 1992 4 8 0w 3600
   1993 1993 3 26 0w 3600
   1993 1993 9 25 0w 0
   1994 1996 4 1 0w 3600
   1994 2005 10 1 0w 0
   1997 1998 3 last1 0w 3600
   1999 2006 4 1 0w 3600
   2006 2006 9 22 0w 0
   2007 2007 3 last5 0w 3600
   2007 2007 11 5>=1 0w 0
   2008 2008 4 5>=1 0w 3600
   2008 2008 11 1 0w 0
   2009 2009 3 last5 0w 3600
   2010 2011 4 5>=1 0w 3600
   2012 2022 3 last5 0w 3600
   2009 2022 10 last5 0w 0
   = SA
   1942 1943 9 0>=15 7200w 3600
   1943 1944 3 0>=15 7200w 0
   = SD
   1970 1970 5 1 0w 3600
   1970 1985 10 15 0w 0
   1971 1971 4 30 0w 3600
   1972 1985 4 last0 0w 3600
   = SV
   1987 1988 5 0>=1 0w 3600
   1987 1988 9 last0 0w 0
   = Sa
   2008 2009 3 0>=8 0w 0
   2007 2008 10 0>=8 0w 3600
   = Sh
   1919 1919 4 12 86400w 3600
   1919 1919 9 30 86400w 0
   1940 1940 6 1 0w 3600
   1940 1940 10 12 86400w 0
   1941 1941 3 15 0w 3600
   1941 1941 11 1 86400w 0
   1942 1942 1 31 0w 3600
   1945 1945 9 1 86400w 0
   1946 1946 5 15 0w 3600
   1946 1946 9 30 86400w 0
   1947 1947 4 15 0w 3600
   1947 1947 10 31 86400w 0
   1948 1949 5 1 0w 3600
   1948 1949 9 30 86400w 0
   = So
   1945 1945 5 24 7200w 7200
   1945 1945 9 24 10800w 3600
   1945 1945 11 18 7200s 0
   = Sp
   1967 1967 6 3 43200w 3600
   1967 1967 10 1 0w 0
   1974 1974 6 24 0w 3600
   1974 1974 9 1 0w 0
   1976 1977 5 1 0w 3600
   1976 1976 8 1 0w 0
   1977 1977 9 28 0w 0
   1978 1978 6 1 0w 3600
   1978 1978 8 4 0w 0
   = St
   1947 1961 4 last0 7200w 3600
   1947 1954 9 last0 7200w 0
   1955 1956 10 last0 7200w 0
   1957 1958 9 last0 7200w 0
   1959 1961 10 last0 7200w 0
   = Sw
   1957 1957 4 last0 7200w 3600
   1957 1957 10 last0 7200w 0
   1959 1961 4 last0 7200w 3600
   1959 1959 10 last0 7200w 0
   1960 1961 9 last0 7200w 0
   = T
   1916 1916 5 1 0w 3600
   1916 1916 10 1 0w 0
   1920 1920 3 28 0w 3600
   1920 1920 10 25 0w 0
   1921 1921 4 3 0w 3600
   1921 1921 10 3 0w 0
   1922 1922 3 26 0w 3600
   1922 1922 10 8 0w 0
   1924 1924 5 13 0w 3600
   1924 1925 10 1 0w 0
   1925 1925 5 1 0w 3600
   1940 1940 7 1 0w 3600
   1940 1940 10 6 0w 0
   1940 1940 12 1 0w 3600
   1941 1941 9 21 0w 0
   1942 1942 4 1 0w 3600
   1945 1945 10 8 0w 0
   1946 1946 6 1 0w 3600
   1946 1946 10 1 0w 0
   1947 1948 4 0>=16 0w 3600
   1947 1951 10 0>=2 0w 0
   1949 1949 4 10 0w 3600
   1950 1950 4 16 0w 3600
   1951 1951 4 22 0w 3600
   1962 1962 7 15 0w 3600
   1963 1963 10 30 0w 0
   1964 1964 5 15 0w 3600
   1964 1964 10 1 0w 0
   1973 1973 6 3 3600w 3600
   1973 1976 10 0>=31 7200w 0
   1974 1974 3 31 7200w 3600
   1975 1975 3 22 7200w 3600
   1976 1976 3 21 7200w 3600
   1977 1978 4 0>=1 7200w 3600
   1977 1978 10 0>=15 7200w 0
   1978 1978 6 29 0w 0
   1983 1983 7 31 7200w 3600
   1983 1983 10 2 7200w 0
   1985 1985 4 20 3600s 3600
   1985 1985 9 28 3600s 0
   1986 1993 3 last0 3600s 3600
   1986 1995 9 last0 3600s 0
   1994 1994 3 20 3600s 3600
   1995 2006 3 last0 3600s 3600
   1996 2006 10 last0 3600s 0
   = TO
   1999 1999 10 7 7200s 3600
   2000 2000 3 19 7200s 0
   2000 2001 11 0>=1 7200w 3600
   2001 2002 1 last0 7200w 0
   2016 2016 11 0>=1 7200w 3600
   2017 2017 1 0>=15 10800w 0
   = Th
   1991 1992 3 last0 7200w 3600
   1991 1992 9 last0 7200w 0
   1993 2006 4 0>=1 7200w 3600
   1993 2006 10 last0 7200w 0
   2007 9999 3 0>=8 7200w 3600
   2007 9999 11 0>=1 7200w 0
   = Tr
   2005 9999 3 last0 3600u 7200
   2004 9999 10 last0 3600u 0
   = U
   1923 1925 10 1 0w 1800
   1924 1926 4 1 0w 0
   1933 1938 10 last0 0w 1800
   1934 1941 3 last6 86400w 0
   1939 1939 10 1 0w 1800
   1940 1940 10 27 0w 1800
   1941 1941 8 1 0w 1800
   1942 1942 12 14 0w 1800
   1943 1943 3 14 0w 0
   1959 1959 5 24 0w 1800
   1959 1959 11 15 0w 0
   1960 1960 1 17 0w 3600
   1960 1960 3 6 0w 0
   1965 1965 4 4 0w 3600
   1965 1965 9 26 0w 0
   1968 1968 5 27 0w 1800
   1968 1968 12 1 0w 0
   1970 1970 4 25 0w 3600
   1970 1970 6 14 0w 0
   1972 1972 4 23 0w 3600
   1972 1972 7 16 0w 0
   1974 1974 1 13 0w 5400
   1974 1974 3 10 0w 1800
   1974 1974 9 1 0w 0
   1974 1974 12 22 0w 3600
   1975 1975 3 30 0w 0
   1976 1976 12 19 0w 3600
   1977 1977 3 6 0w 0
   1977 1977 12 4 0w 3600
   1978 1979 3 0>=1 0w 0
   1978 1978 12 17 0w 3600
   1979 1979 4 29 0w 3600
   1980 1980 3 16 0w 0
   1987 1987 12 14 0w 3600
   1988 1988 2 28 0w 0
   1988 1988 12 11 0w 3600
   1989 1989 3 5 0w 0
   1989 1989 10 29 0w 3600
   1990 1990 2 25 0w 0
   1990 1991 10 0>=21 0w 3600
   1991 1992 3 0>=1 0w 0
   1992 1992 10 18 0w 3600
   1993 1993 2 28 0w 0
   2004 2004 9 19 0w 3600
   2005 2005 3 27 7200w 0
   2005 2005 10 9 7200w 3600
   2006 2015 3 0>=8 7200w 0
   2006 2014 10 0>=1 7200w 3600
   = V
   1946 1946 4 last0 7200w 3600
   1946 1946 9 last0 7200w 0
   1953 1954 4 last0 7200w 3600
   1953 1959 9 last0 7200w 0
   1955 1955 5 1 0w 3600
   1956 1963 4 last0 7200w 3600
   1960 1960 10 last0 7200w 0
   1961 1961 9 last0 7200w 0
   1962 1963 10 last0 7200w 0
   = VU
   1973 1973 12 22 43200u 3600
   1974 1974 3 30 43200u 0
   1983 1991 9 6>=22 86400w 3600
   1984 1991 3 6>=22 86400w 0
   1992 1993 1 6>=22 86400w 0
   1992 1992 10 6>=22 86400w 3600
   = Va
   1918 1918 4 14 7200w 3600
   1918 1918 10 27 7200w 0
   1942 1942 2 9 7200w 3600
   1945 1945 8 14 82800u 3600
   1945 1945 9 30 7200w 0
   1946 1986 4 last0 7200w 3600
   1946 1946 9 29 7200w 0
   1947 1961 9 last0 7200w 0
   1962 2006 10 last0 7200w 0
   = W
   1916 1916 4 23 0w 3600
   1916 1916 9 17 0w 0
   1918 1918 4 14 7200w 3600
   1918 1918 10 27 7200w 0
   1937 1937 5 16 7200w 3600
   1937 1937 9 26 7200w 0
   1942 1942 2 9 7200w 3600
   1945 1945 8 14 82800u 3600
   1945 1945 9 last0 7200w 0
   1946 1946 5 12 7200w 3600
   1946 1946 10 13 7200w 0
   1947 1949 4 last0 7200w 3600
   1947 1949 9 last0 7200w 0
   1950 1950 5 1 7200w 3600
   1950 1950 9 30 7200w 0
   1951 1960 4 last0 7200w 3600
   1951 1958 9 last0 7200w 0
   1959 1959 10 last0 7200w 0
   1960 1960 9 last0 7200w 0
   1963 1963 4 last0 7200w 3600
   1963 1963 9 22 7200w 0
   1966 1986 4 last0 7200s 3600
   1966 2005 10 last0 7200s 0
   1987 2005 4 0>=1 7200s 3600
   = W-
   1977 1980 4 0>=1 3600s 3600
   1977 1977 9 last0 3600s 0
   1978 1978 10 1 3600s 0
   1979 1995 9 last0 3600s 0
   1981 9999 3 last0 3600s 3600
   1996 9999 10 last0 3600s 0
   = WS
   2010 2010 9 last0 0w 3600
   2011 2011 4 6>=1 14400w 0
   2011 2011 9 last6 10800w 3600
   2012 2021 4 0>=1 14400w 0
   2012 2020 9 last0 10800w 3600
   = X
   1983 1984 4 1 0w 3600
   1983 1983 10 1 0w 0
   1985 1998 3 last0 0w 3600
   1984 1998 9 last0 0w 0
   2001 2001 4 last6 7200w 3600
   2001 2006 9 last6 7200w 0
   2002 2006 3 last6 7200w 3600
   2015 2016 3 last6 7200w 3600
   2015 2016 9 last6 0w 0
   = Y
   1918 1918 4 14 7200w 3600
   1918 1918 10 27 7200w 0
   1919 1919 5 25 7200w 3600
   1919 1919 11 1 0w 0
   1942 1942 2 9 7200w 3600
   1945 1945 8 14 82800u 3600
   1945 1945 9 30 7200w 0
   1972 1986 4 last0 7200w 3600
   1972 2006 10 last0 7200w 0
   1987 2006 4 0>=1 7200w 3600
   = Yu
   1965 1965 4 last0 0w 7200
   1965 1965 10 last0 7200w 0
   = Z
   1940 1940 5 31 86400u 3600
   1940 1940 9 30 86400u 0
   1940 1940 11 16 86400u 3600
   1942 1946 10 31 86400u 0
   1943 1944 3 31 86400u 3600
   1945 1946 4 15 86400u 3600
   1948 1948 5 22 86400u 7200
   1948 1948 8 31 86400u 3600
   1948 1949 10 31 86400u 0
   1949 1949 4 30 86400u 3600
   1950 1950 4 15 86400u 3600
   1950 1950 9 14 86400u 0
   1951 1951 3 31 86400u 3600
   1951 1951 11 10 86400u 0
   1952 1952 4 19 86400u 3600
   1952 1952 10 18 86400u 0
   1953 1953 4 11 86400u 3600
   1953 1953 9 12 86400u 0
   1954 1954 6 12 86400u 3600
   1954 1954 9 11 86400u 0
   1955 1955 6 11 86400u 3600
   1955 1955 9 10 86400u 0
   1956 1956 6 2 86400u 3600
   1956 1956 9 29 86400u 0
   1957 1957 4 27 86400u 3600
   1957 1957 9 21 86400u 0
   1974 1974 7 6 86400w 3600
   1974 1974 10 12 86400w 0
   1975 1975 4 19 86400w 3600
   1975 1975 8 30 86400w 0
   1980 1980 8 2 86400s 3600
   1980 1980 9 13 86400s 0
   1984 1984 5 5 86400s 3600
   1984 1984 8 25 86400s 0
   1985 1985 4 13 86400w 3600
   1985 1985 8 31 86400w 0
   1986 1986 5 17 86400w 3600
   1986 1986 9 6 86400w 0
   1987 1987 4 14 86400w 3600
   1987 1987 9 12 86400w 0
   1988 1988 4 9 86400w 3600
   1988 1988 9 3 86400w 0
   1989 1989 4 29 86400w 3600
   1989 1989 9 2 86400w 0
   1990 1990 3 24 86400w 3600
   1990 1990 8 25 86400w 0
   1991 1991 3 23 86400w 3600
   1991 1991 8 31 86400w 0
   1992 1992 3 28 86400w 3600
   1992 1992 9 5 86400w 0
   1993 1993 4 2 0w 3600
   1993 1993 9 5 0w 0
   1994 1994 4 1 0w 3600
   1994 1994 8 28 0w 0
   1995 1995 3 31 0w 3600
   1995 1995 9 3 0w 0
   1996 1996 3 14 86400w 3600
   1996 1996 9 15 86400w 0
   1997 1997 3 20 86400w 3600
   1997 1997 9 13 86400w 0
   1998 1998 3 20 0w 3600
   1998 1998 9 6 0w 0
   1999 1999 4 2 7200w 3600
   1999 1999 9 3 7200w 0
   2000 2000 4 14 7200w 3600
   2000 2000 10 6 3600w 0
   2001 2001 4 9 3600w 3600
   2001 2001 9 24 3600w 0
   2002 2002 3 29 3600w 3600
   2002 2002 10 7 3600w 0
   2003 2003 3 28 3600w 3600
   2003 2003 10 3 3600w 0
   2004 2004 4 7 3600w 3600
   2004 2004 9 22 3600w 0
   2005 2012 4 5<=1 7200w 3600
   2005 2005 10 9 7200w 0
   2006 2006 10 1 7200w 0
   2007 2007 9 16 7200w 0
   2008 2008 10 5 7200w 0
   2009 2009 9 27 7200w 0
   2010 2010 9 12 7200w 0
   2011 2011 10 2 7200w 0
   2012 2012 9 23 7200w 0
   2013 9999 3 5>=23 7200w 3600
   2013 9999 10 last0 7200w 0
   = _
   1942 1943 4 30 82800w 3600
   1942 1942 11 17 82800w 0
   1943 1943 9 30 82800w 0
   1946 1946 4 30 82800s 3600
   1946 1946 9 30 82800s 0
   1947 1947 4 19 82800s 3600
   1947 1947 11 30 82800s 0
   1948 1948 5 2 82800s 3600
   1948 1948 10 31 82800s 0
   1949 1950 4 6>=1 82800s 3600
   1949 1950 10 last6 82800s 0
   1951 1951 3 31 82800s 3600
   1951 1951 10 28 82800s 0
   1952 1953 4 6>=1 82800s 3600
   1952 1952 11 1 82800s 0
   1953 1954 10 last6 82800s 0
   1954 1956 3 6>=17 82800s 3600
   1955 1955 11 5 82800s 0
   1956 1964 11 0>=1 12600w 0
   1957 1964 3 0>=18 12600w 3600
   1965 1973 4 0>=16 12600w 3600
   1965 1966 10 0>=16 9000w 0
   1967 1976 10 0>=16 12600w 0
   1973 1973 12 30 12600w 3600
   1975 1976 4 0>=16 12600w 3600
   1979 1979 5 13 12600w 3600
   1979 1979 10 0>=16 12600w 0
   = a
   1920 1920 4 5 7200s 3600
   1920 1920 9 13 7200s 0
   1946 1946 4 14 7200s 3600
   1946 1946 10 7 7200s 0
   1947 1948 10 0>=1 7200s 0
   1947 1947 4 6 7200s 3600
   1948 1948 4 18 7200s 3600
   1980 1980 4 6 0w 3600
   1980 1980 9 28 0w 0
   = b
   1918 1918 3 9 0s 3600
   1918 1919 10 6>=1 82800s 0
   1919 1919 3 1 82800s 3600
   1920 1920 2 14 82800s 3600
   1920 1920 10 23 82800s 0
   1921 1921 3 14 82800s 3600
   1921 1921 10 25 82800s 0
   1922 1922 3 25 82800s 3600
   1922 1927 10 6>=1 82800s 0
   1923 1923 4 21 82800s 3600
   1924 1924 3 29 82800s 3600
   1925 1925 4 4 82800s 3600
   1926 1926 4 17 82800s 3600
   1927 1927 4 9 82800s 3600
   1928 1928 4 14 82800s 3600
   1928 1938 10 0>=2 7200s 0
   1929 1929 4 21 7200s 3600
   1930 1930 4 13 7200s 3600
   1931 1931 4 19 7200s 3600
   1932 1932 4 3 7200s 3600
   1933 1933 3 26 7200s 3600
   1934 1934 4 8 7200s 3600
   1935 1935 3 31 7200s 3600
   1936 1936 4 19 7200s 3600
   1937 1937 4 4 7200s 3600
   1938 1938 3 27 7200s 3600
   1939 1939 4 16 7200s 3600
   1939 1939 11 19 7200s 0
   1940 1940 2 25 7200s 3600
   1944 1944 9 17 7200s 0
   1945 1945 4 2 7200s 3600
   1945 1945 9 16 7200s 0
   1946 1946 5 19 7200s 3600
   1946 1946 10 7 7200s 0
   = c
   1916 1916 4 30 82800w 3600
   1916 1916 10 1 3600w 0
   1917 1918 4 1>=15 7200s 3600
   1917 1918 9 1>=15 7200s 0
   1940 1940 4 1 7200s 3600
   1942 1942 11 2 7200s 0
   1943 1943 3 29 7200s 3600
   1943 1943 10 4 7200s 0
   1944 1945 4 1>=1 7200s 3600
   1944 1944 10 2 7200s 0
   1945 1945 9 16 7200s 0
   1977 1980 4 0>=1 7200s 3600
   1977 1977 9 last0 7200s 0
   1978 1978 10 1 7200s 0
   1979 1995 9 last0 7200s 0
   1981 9999 3 last0 7200s 3600
   1996 9999 10 last0 7200s 0
   = d
   1916 1916 6 14 82800s 3600
   1916 1919 10 0>=1 82800s 0
   1917 1917 3 24 82800s 3600
   1918 1918 3 9 82800s 3600
   1919 1919 3 1 82800s 3600
   1920 1920 2 14 82800s 3600
   1920 1920 10 23 82800s 0
   1921 1921 3 14 82800s 3600
   1921 1921 6 21 82800s 0
   1939 1939 9 11 82800s 3600
   1939 1939 11 19 3600w 0
   1944 1945 4 1>=1 7200w 3600
   1944 1944 10 8 7200w 0
   1945 1945 9 16 3600w 0
   1971 1971 4 25 82800s 3600
   1971 1971 9 26 82800s 0
   1977 1977 5 6 0w 3600
   1977 1977 10 21 0w 0
   1978 1978 3 24 3600w 3600
   1978 1978 9 22 10800w 0
   1980 1980 4 25 0w 3600
   1980 1980 10 31 7200w 0
   = e
   1977 1980 4 0>=1 0w 3600
   1977 1977 9 last0 0w 0
   1978 1978 10 1 0w 0
   1979 1995 9 last0 0w 0
   1981 9999 3 last0 0w 3600
   1996 9999 10 last0 0w 0
   = f
   1946 1946 5 15 0w 3600
   1946 1946 10 1 0w 0
   1947 1947 4 15 0w 3600
   1947 1947 11 1 0w 0
   1948 1951 5 1 0w 3600
   1948 1951 10 1 0w 0
   1952 1952 3 1 0w 3600
   1952 1954 11 1 0w 0
   1953 1959 4 1 0w 3600
   1955 1961 10 1 0w 0
   1960 1961 6 1 0w 3600
   1974 1975 4 1 0w 3600
   1974 1975 10 1 0w 0
   1979 1979 7 1 0w 3600
   1979 1979 10 1 0w 0
   = g
   1932 1932 7 7 0w 3600
   1932 1932 9 1 0w 0
   1941 1941 4 7 0w 3600
   1942 1942 11 2 10800w 0
   1943 1943 3 30 0w 3600
   1943 1943 10 4 0w 0
   1952 1952 7 1 0w 3600
   1952 1952 11 2 0w 0
   1975 1975 4 12 0s 3600
   1975 1975 11 26 0s 0
   1976 1976 4 11 7200s 3600
   1976 1976 10 10 7200s 0
   1977 1978 4 0>=1 7200s 3600
   1977 1977 9 26 7200s 0
   1978 1978 9 24 14400w 0
   1979 1979 4 1 32400w 3600
   1979 1979 9 29 7200w 0
   1980 1980 4 1 0w 3600
   1980 1980 9 28 0w 0
   = h
   1918 1919 4 15 7200w 3600
   1918 1920 9 1>=15 10800w 0
   1920 1920 4 5 7200w 3600
   1945 1945 5 1 82800w 3600
   1945 1945 11 1 3600w 0
   1946 1946 3 31 7200s 3600
   1946 1946 10 7 7200w 0
   1947 1949 4 0>=4 7200s 3600
   1947 1949 10 0>=1 7200s 0
   1954 1954 5 23 0w 3600
   1954 1954 10 3 0w 0
   1955 1955 5 22 7200w 3600
   1955 1955 10 2 10800w 0
   1956 1957 6 0>=1 7200w 3600
   1956 1957 9 last0 10800w 0
   1980 1980 4 6 0w 3600
   1980 1980 9 28 3600w 0
   1981 1983 3 last0 0w 3600
   1981 1983 9 last0 3600w 0
   = i
   1910 1910 1 1 0w 0
   1977 1977 3 21 82800w 3600
   1977 1977 10 20 86400w 0
   1978 1978 3 24 86400w 3600
   1978 1978 8 5 3600w 0
   1979 1979 5 26 86400w 3600
   1979 1979 9 18 86400w 0
   1980 1980 3 20 86400w 3600
   1980 1980 9 22 86400w 0
   1991 1991 5 2 86400w 3600
   1992 1995 3 21 86400w 3600
   1991 1995 9 21 86400w 0
   1996 1996 3 20 86400w 3600
   1996 1996 9 20 86400w 0
   1997 1999 3 21 86400w 3600
   1997 1999 9 21 86400w 0
   2000 2000 3 20 86400w 3600
   2000 2000 9 20 86400w 0
   2001 2003 3 21 86400w 3600
   2001 2003 9 21 86400w 0
   2004 2004 3 20 86400w 3600
   2004 2004 9 20 86400w 0
   2005 2005 3 21 86400w 3600
   2005 2005 9 21 86400w 0
   2008 2008 3 20 86400w 3600
   2008 2008 9 20 86400w 0
   2009 2011 3 21 86400w 3600
   2009 2011 9 21 86400w 0
   2012 2012 3 20 86400w 3600
   2012 2012 9 20 86400w 0
   2013 2015 3 21 86400w 3600
   2013 2015 9 21 86400w 0
   2016 2016 3 20 86400w 3600
   2016 2016 9 20 86400w 0
   2017 2019 3 21 86400w 3600
   2017 2019 9 21 86400w 0
   2020 2020 3 20 86400w 3600
   2020 2020 9 20 86400w 0
   2021 2022 3 21 86400w 3600
   2021 2022 9 21 86400w 0
   = j
   1917 1917 4 8 7200w 3600
   1917 1917 9 17 7200w 0
   1919 1919 5 5 82800w 3600
   1919 1919 8 12 82800w 0
   1920 1935 5 0>=1 82800w 3600
   1920 1935 10 last0 82800w 0
   1936 1941 5 1>=9 0w 3600
   1936 1941 10 1>=2 0w 0
   1946 1950 5 0>=8 7200w 3600
   1946 1950 10 0>=2 7200w 0
   1951 1986 4 last0 7200w 3600
   1951 1959 9 last0 7200w 0
   1960 1986 10 last0 7200w 0
   1987 1987 4 0>=1 60w 3600
   1987 2006 10 last0 60w 0
   1988 1988 4 0>=1 60w 7200
   1989 2006 4 0>=1 60w 3600
   2007 2011 3 0>=8 60w 3600
   2007 2010 11 0>=1 60w 0
   = k
   1974 1974 11 0>=1 9900s 3600
   1975 1975 2 last0 9900s 0
   1975 1988 10 last0 9900s 3600
   1976 1989 3 0>=1 9900s 0
   1989 1989 10 0>=8 9900s 3600
   1990 2006 10 0>=1 9900s 3600
   1990 2007 3 0>=15 9900s 0
   2007 9999 9 last0 9900s 3600
   2008 9999 4 0>=1 9900s 0
   = l
   1920 1920 3 28 0w 3600
   1920 1920 10 25 0w 0
   1921 1921 4 3 0w 3600
   1921 1921 10 3 0w 0
   1922 1922 3 26 0w 3600
   1922 1922 10 8 0w 0
   1923 1923 4 22 0w 3600
   1923 1923 9 16 0w 0
   1957 1961 5 1 0w 3600
   1957 1961 10 1 0w 0
   1972 1972 6 22 0w 3600
   1972 1977 10 1 0w 0
   1973 1977 5 1 0w 3600
   1978 1978 4 30 0w 3600
   1978 1978 9 30 0w 0
   1984 1987 5 1 0w 3600
   1984 1991 10 16 0w 0
   1988 1988 6 1 0w 3600
   1989 1989 5 10 0w 3600
   1990 1992 5 1 0w 3600
   1992 1992 10 4 0w 0
   1993 9999 3 last0 0w 3600
   1993 1998 9 last0 0w 0
   1999 9999 10 last0 0w 0
   = m
   1931 1931 4 30 0w 3600
   1931 1931 10 1 0w 0
   1939 1939 2 5 0w 3600
   1939 1939 6 25 0w 0
   1940 1940 12 9 0w 3600
   1941 1941 4 1 0w 0
   1943 1943 12 16 0w 3600
   1944 1944 5 1 0w 0
   1950 1950 2 12 0w 3600
   1950 1950 7 30 0w 0
   1996 2000 4 0>=1 7200w 3600
   1996 2000 10 last0 7200w 0
   2001 2001 5 0>=1 7200w 3600
   2001 2001 9 last0 7200w 0
   2002 2022 4 0>=1 7200w 3600
   2002 2022 10 last0 7200w 0
   = n
   1939 1939 4 15 82800s 3600
   1939 1939 11 18 82800s 0
   1940 1940 2 25 82800s 3600
   1941 1941 10 6 0w 0
   1942 1942 3 9 0w 3600
   1942 1942 11 2 10800w 0
   1943 1943 3 29 7200w 3600
   1943 1943 4 17 7200w 0
   1943 1943 4 25 7200w 3600
   1943 1943 10 4 7200w 0
   1944 1945 4 1>=1 7200w 3600
   1944 1944 10 8 0w 0
   1945 1945 9 16 0w 0
   1977 1977 4 30 0s 3600
   1977 1977 9 24 0s 0
   1978 1978 5 1 0s 3600
   1978 1978 10 1 0s 0
   1988 1988 6 1 0s 3600
   1988 1990 9 last0 0s 0
   1989 1989 3 26 0s 3600
   1990 1990 5 1 0s 3600
   2005 2005 5 1 0s 3600
   2005 2005 9 30 3600s 0
   2006 2008 3 last0 7200s 3600
   2006 2008 10 last0 7200s 0
   = o
   1933 1935 6 0>=8 3600w 3600
   1933 1935 9 0>=8 3600w 0
   1936 1938 6 0>=1 3600w 3600
   1936 1938 9 0>=1 3600w 0
   1939 1939 5 27 3600w 3600
   1939 1941 9 6>=21 3600w 0
   1940 1940 5 19 3600w 3600
   1941 1941 5 4 3600w 3600
   1946 1972 4 last0 7200w 3600
   1946 1956 9 last0 7200w 0
   1957 1972 10 last0 7200w 0
   1993 2006 4 0>=1 60w 3600
   1993 2006 10 last0 60w 0
   = p
   1916 1916 6 17 82800w 3600
   1916 1916 11 1 3600w 0
   1917 1921 3 1 0w 3600
   1917 1921 10 14 86400w 0
   1924 1924 4 16 82800s 3600
   1924 1924 10 4 82800s 0
   1926 1926 4 17 82800s 3600
   1926 1929 10 6>=1 82800s 0
   1927 1927 4 9 82800s 3600
   1928 1928 4 14 82800s 3600
   1929 1929 4 20 82800s 3600
   1931 1931 4 18 82800s 3600
   1931 1932 10 6>=1 82800s 0
   1932 1932 4 2 82800s 3600
   1934 1934 4 7 82800s 3600
   1934 1938 10 6>=1 82800s 0
   1935 1935 3 30 82800s 3600
   1936 1936 4 18 82800s 3600
   1937 1937 4 3 82800s 3600
   1938 1938 3 26 82800s 3600
   1939 1939 4 15 82800s 3600
   1939 1939 11 18 82800s 0
   1940 1940 2 24 82800s 3600
   1940 1940 10 7 82800s 0
   1941 1941 4 5 82800s 3600
   1941 1941 10 5 82800s 0
   1942 1945 3 6>=8 82800s 3600
   1942 1942 4 25 79200s 7200
   1942 1942 8 15 79200s 3600
   1942 1945 10 6>=24 82800s 0
   1943 1943 4 17 79200s 7200
   1943 1945 8 6>=25 79200s 3600
   1944 1945 4 6>=21 79200s 7200
   1946 1946 4 6>=1 82800s 3600
   1946 1946 10 6>=1 82800s 0
   1947 1966 4 0>=1 7200s 3600
   1947 1965 10 0>=1 7200s 0
   1976 1976 9 last0 3600w 0
   1977 1977 3 last0 0s 3600
   1977 1977 9 last0 0s 0
   1978 1980 4 0>=1 3600s 3600
   1978 1978 10 1 3600s 0
   1979 1980 9 last0 3600s 0
   1981 1986 3 last0 0s 3600
   1981 1985 9 last0 0s 0
   = q
   1940 1940 6 16 0w 3600
   1942 1942 11 2 10800w 0
   1943 1943 3 29 7200w 3600
   1943 1943 4 10 10800w 0
   1974 1974 5 4 0w 3600
   1974 1974 10 2 0w 0
   1975 1975 5 1 0w 3600
   1975 1975 10 2 0w 0
   1976 1976 5 2 0w 3600
   1976 1976 10 3 0w 0
   1977 1977 5 8 0w 3600
   1977 1977 10 2 0w 0
   1978 1978 5 6 0w 3600
   1978 1978 10 1 0w 0
   1979 1979 5 5 0w 3600
   1979 1979 9 30 0w 0
   1980 1980 5 3 0w 3600
   1980 1980 10 4 0w 0
   1981 1981 4 26 0w 3600
   1981 1981 9 27 0w 0
   1982 1982 5 2 0w 3600
   1982 1982 10 3 0w 0
   1983 1983 4 18 0w 3600
   1983 1983 10 1 0w 0
   1984 1984 4 1 0w 3600
   = r
   1918 1918 4 14 7200w 3600
   1918 1918 10 27 7200w 0
   1930 1934 5 0>=1 0w 3600
   1930 1934 10 0>=1 0w 0
   1937 1941 4 0>=8 0w 3600
   1937 1937 10 0>=8 0w 0
   1938 1938 10 0>=1 0w 0
   1939 1941 10 0>=8 0w 0
   1942 1942 2 9 7200w 3600
   1945 1945 8 14 82800u 3600
   1945 1945 9 last0 7200w 0
   1946 1946 4 0>=8 7200w 3600
   1946 1946 10 0>=8 7200w 0
   1947 1957 4 last0 7200w 3600
   1947 1957 9 last0 7200w 0
   1959 1959 4 last0 7200w 3600
   1959 1959 10 last0 7200w 0
   = s
   1918 1918 4 15 82800w 3600
   1918 1919 10 6 86400s 0
   1919 1919 4 6 82800w 3600
   1924 1924 4 16 82800w 3600
   1924 1924 10 4 86400s 0
   1926 1926 4 17 82800w 3600
   1926 1929 10 6>=1 86400s 0
   1927 1927 4 9 82800w 3600
   1928 1928 4 15 0w 3600
   1929 1929 4 20 82800w 3600
   1937 1937 6 16 82800w 3600
   1937 1937 10 2 86400s 0
   1938 1938 4 2 82800w 3600
   1938 1938 4 30 82800w 7200
   1938 1938 10 2 86400w 3600
   1939 1939 10 7 86400s 0
   1942 1942 5 2 82800w 3600
   1942 1942 9 1 3600w 0
   1943 1946 4 6>=13 82800w 3600
   1943 1944 10 0>=1 3600w 0
   1945 1946 9 last0 3600w 0
   1949 1949 4 30 82800w 3600
   1949 1949 10 2 3600w 0
   1974 1975 4 6>=12 82800w 3600
   1974 1975 10 0>=1 3600w 0
   1976 1976 3 27 82800w 3600
   1976 1977 9 last0 3600w 0
   1977 1977 4 2 82800w 3600
   1978 1978 4 2 7200s 3600
   1978 1978 10 1 7200s 0
   = t
   1919 1919 3 30 84600w 3600
   1919 1919 10 26 0w 0
   1920 1920 5 2 7200w 3600
   1920 1920 9 26 0w 0
   1921 1921 5 15 7200w 3600
   1921 1921 9 15 7200w 0
   1922 1923 5 0>=8 7200w 3600
   1922 1926 9 0>=15 7200w 0
   1924 1927 5 0>=1 7200w 3600
   1927 1937 9 0>=25 7200w 0
   1928 1937 4 0>=25 7200w 3600
   1938 1940 4 last0 7200w 3600
   1938 1939 9 last0 7200w 0
   1945 1948 9 last0 7200w 0
   1946 1973 4 last0 7200w 3600
   1949 1950 11 last0 7200w 0
   1951 1956 9 last0 7200w 0
   1957 1973 10 last0 7200w 0
   = u
   1918 1919 3 last0 7200w 3600
   1918 1919 10 last0 7200w 0
   1942 1942 2 9 7200w 3600
   1945 1945 8 14 82800u 3600
   1945 1945 9 30 7200w 0
   1967 2006 10 last0 7200w 0
   1967 1973 4 last0 7200w 3600
   1974 1974 1 6 7200w 3600
   1975 1975 2 last0 7200w 3600
   1976 1986 4 last0 7200w 3600
   1987 2006 4 0>=1 7200w 3600
   2007 9999 3 0>=8 7200w 3600
   2007 9999 11 0>=1 7200w 0
   = v
   1921 1921 5 1 7200w 3600
   1921 1921 9 1 7200w 0
   1941 1941 4 last0 7200w 3600
   1941 1941 9 last0 7200w 0
   1946 1946 4 last0 60w 3600
   1946 1946 6 2 7200w 0
   1950 1961 4 last0 7200w 3600
   1950 1955 9 last0 7200w 0
   1956 1961 10 last0 7200w 0
   = x
   1927 1931 9 1 0w 3600
   1928 1932 4 1 0w 0
   1968 1968 11 3 14400u 3600
   1969 1969 3 30 10800u 0
   1969 1969 11 23 14400u 3600
   1970 1970 3 29 10800u 0
   1971 1971 3 14 10800u 0
   1970 1972 10 0>=9 14400u 3600
   1972 1986 3 0>=9 10800u 0
   1973 1973 9 30 14400u 3600
   1974 1987 10 0>=9 14400u 3600
   1987 1987 4 12 10800u 0
   1988 1990 3 0>=9 10800u 0
   1988 1989 10 0>=9 14400u 3600
   1990 1990 9 16 14400u 3600
   1991 1996 3 0>=9 10800u 0
   1991 1997 10 0>=9 14400u 3600
   1997 1997 3 30 10800u 0
   1998 1998 3 0>=9 10800u 0
   1998 1998 9 27 14400u 3600
   1999 1999 4 4 10800u 0
   1999 2010 10 0>=9 14400u 3600
   2000 2007 3 0>=9 10800u 0
   2008 2008 3 30 10800u 0
   2009 2009 3 0>=9 10800u 0
   2010 2010 4 0>=1 10800u 0
   2011 2011 5 0>=2 10800u 0
   2011 2011 8 0>=16 14400u 3600
   2012 2014 4 0>=23 10800u 0
   2012 2014 9 0>=2 14400u 3600
   2016 2018 5 0>=9 10800u 0
   2016 2018 8 0>=9 14400u 3600
   2019 9999 4 0>=2 10800u 0
   2019 2021 9 0>=2 14400u 3600
   2022 2022 9 0>=9 14400u 3600
   2023 9999 9 0>=2 14400u 3600
   = y
   1975 1988 10 1 0w 3600
   1975 1978 3 1 0w 0
   1979 1991 4 1 0w 0
   1989 1989 10 22 0w 3600
   1990 1990 10 1 0w 3600
   1991 1991 10 6 0w 3600
   1992 1992 3 1 0w 0
   1992 1992 10 5 0w 3600
   1993 1993 3 31 0w 0
   1993 1995 10 1 0w 3600
   1994 1995 2 last0 0w 0
   1996 1996 3 1 0w 0
   1996 2001 10 0>=1 0w 3600
   1997 1997 2 last0 0w 0
   1998 2001 3 0>=1 0w 0
   2002 2004 4 0>=1 0w 0
   2002 2003 9 0>=1 0w 3600
   2004 2009 10 0>=15 0w 3600
   2005 2009 3 0>=8 0w 0
   2010 2024 10 0>=1 0w 3600
   2010 2012 4 0>=8 0w 0
   2013 2024 3 0>=22 0w 0
   = z
   1932 1932 5 21 0s 3600
   1932 1939 10 0>=1 0s 0
   1933 1939 4 0>=2 0s 3600
   1979 1979 5 27 0w 3600
   1979 1979 9 last0 0w 0
   1980 1980 4 5 82800w 3600
   1980 1980 9 last0 3600w 0
   1991 1993 3 last0 0s 3600
   1991 1993 9 last0 0s 0"

end LogLayout.Time
